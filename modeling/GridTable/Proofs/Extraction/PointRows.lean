import GridTable.Proofs.Extraction.FullScan
import GridTable.Proofs.Selection.LastIndex

/-! Which cells points select, and what their rows show, also where a filter about points names one
dimension twice.
-/

namespace GridTable

open Outcome Traced

namespace Filter

/-- Whether coordinates, given by the names of their dimensions, are near one of the points of a
filter about points. If it names one dimension twice, the second coordinate of the point counts.
-/
def NearPoint (coordinateOf : String → Float) : Filter → Prop
  | range .. | list .. => True
  | point2d first second points tolerance | point3d _ first second _ points tolerance =>
      ∃ point ∈ points,
        (first ≠ second → (coordinateOf first - point.1).abs ≤ tolerance)
        ∧ (coordinateOf second - point.2).abs ≤ tolerance

/-- Only the coordinates along the dimensions of a filter count. -/
theorem NearPoint.congr {coordinateOf other : String → Float} {filter : Filter}
    (near : filter.NearPoint coordinateOf)
    (same : ∀ name ∈ filter.dimensions, coordinateOf name = other name)
    : filter.NearPoint other := by
  cases filter with
  | range | list => trivial
  | point2d first second points tolerance =>
      rw [NearPoint, ← same first (by simp [dimensions]), ← same second (by simp [dimensions])]
      exact near
  | point3d time first second steps points tolerance =>
      rw [NearPoint, ← same first (by simp [dimensions]), ← same second (by simp [dimensions])]
      exact near

variable {coordinatesOf : String → Array Float} {filter : Filter} {dimensions : List String}
variable {cell : CellIndex}

/-- A cell that is kept has indices in range along all dimensions of the filter. -/
theorem inside_of_keepsLast_found (keeps : (filter.found coordinatesOf).KeepsLast dimensions cell)
    {name : String} (hn : name ∈ filter.dimensions)
    : 0 ≤ entryAlong dimensions cell name
      ∧ entryAlong dimensions cell name < (coordinatesOf name).size := by
  obtain ⟨group, hg, same⟩ := keeps
  rw [dimensions_found] at same
  have inside := List.forall₂_iff_zip.mp (inside_of_mem_groups_found hg).flip
  have named : name ∈ Keyed.names (filter.dimensions.zip group) := by
    rwa [Keyed.names, List.map_fst_zip (Nat.le_of_eq inside.1)]
  obtain ⟨index, found, hm⟩ := Keyed.exists_find?_collect named
  rw [same name hn, Finding.lastIndex, found, Option.getD_some]
  exact inside.2 hm

/-- The last two indices of a group are those of the last two dimensions, except that the earlier
one is lost where both dimensions are the same.
-/
theorem near_of_lastIndices {first second : String} {points : List (Float × Float)}
    {tolerance : Float} {before : List String} {heads : List Int}
    (sized : heads.length = before.length) {i j : Int}
    (near : (i, j)
      ∈ Matching.pairsNearAny (coordinatesOf first) (coordinatesOf second) points tolerance)
    (same : ∀ name ∈ before ++ [first] ++ [second],
      entryAlong dimensions cell name
      = Finding.lastIndex (before ++ [first] ++ [second]) (heads ++ [i] ++ [j]) name)
    : ∃ point ∈ points,
        (first ≠ second
          → (Matching.coordinateAt (coordinatesOf first) (entryAlong dimensions cell first)
              - point.1).abs
            ≤ tolerance)
        ∧ (Matching.coordinateAt (coordinatesOf second) (entryAlong dimensions cell second)
            - point.2).abs
          ≤ tolerance := by
  have sized' : (heads ++ [i]).length = (before ++ [first]).length := by simp [sized]
  have last : entryAlong dimensions cell second = j := by
    rw [same second (by simp), Finding.lastIndex_concat sized', if_pos rfl]
  obtain ⟨point, hp, hi, hj⟩ := Matching.mem_pairsNearAny.mp near
  refine ⟨point, hp, ?_, ?_⟩
  · intro different
    have earlier : entryAlong dimensions cell first = i := by
      rw [same first (by simp), Finding.lastIndex_concat sized', if_neg (Ne.symm different),
        Finding.lastIndex_concat sized, if_pos rfl]
    rw [earlier]
    simpa [Matching.isNear] using (Matching.mem_positions.mp hi).2
  · rw [last]
    simpa [Matching.isNear] using (Matching.mem_positions.mp hj).2

/-- A cell that is kept has its coordinates near one of the points. -/
theorem nearPoint_of_keepsLast_found
    (keeps : (filter.found coordinatesOf).KeepsLast dimensions cell)
    : filter.NearPoint fun name =>
        Matching.coordinateAt (coordinatesOf name) (entryAlong dimensions cell name) := by
  obtain ⟨group, hg, same⟩ := keeps
  rw [dimensions_found] at same
  cases filter with
  | range | list => trivial
  | point2d first second points tolerance =>
      obtain ⟨⟨i, j⟩, near, rfl⟩ := List.mem_map.mp hg
      have sized : ([] : List Int).length = ([] : List String).length := rfl
      exact near_of_lastIndices sized near same
  | point3d time first second steps points tolerance =>
      obtain ⟨⟨t, i, j⟩, htriplet, rfl⟩ := List.mem_map.mp hg
      obtain ⟨moment, -, hpairs⟩ := List.mem_flatMap.mp htriplet
      obtain ⟨⟨i', j'⟩, near, own⟩ := List.mem_map.mp hpairs
      obtain ⟨rfl, rfl, rfl⟩ : moment = t ∧ i' = i ∧ j' = j := by simpa using own
      have sized : [moment].length = [time].length := rfl
      exact near_of_lastIndices sized near same

end Filter

/-- Each row of an extraction shows coordinates near a point of every filter about points. -/
theorem Source.nearPoint_of_row {source : Source} {field : String} {filters : List Filter}
    {axes : List Axis} {batchSize : Int} {maxRows : Option RowLimit} {table : Table}
    (located : source.axesOf field = .ok axes) (distinct : (axes.map Axis.name).Nodup)
    (h : (source.extract field filters batchSize maxRows).outcome = .ok table) {row : Nat}
    (hr : row < table.rowCount) {filter : Filter} (hf : filter ∈ filters)
    : filter.NearPoint (table.entry row) := by
  obtain ⟨selection, selected, extracted⟩ := bind_eq_ok_iff.mp ((outcome_bind ..).symm.trans h)
  obtain ⟨own, findings, again, -, applied, applies, rfl⟩ := select_eq_ok_iff_folded.mp selected
  obtain rfl := Except.ok.inj (located.symm.trans again)
  have valid := Selection.valid_ofAxes axes
  have names : (findings.foldl Selection.folded (.ofAxes axes)).dimensions
      = axes.map Axis.name :=
    Selection.dimensions_foldl_folded _ _
  obtain ⟨cell, hm, shown⟩ := Extraction.exists_cell_of_row (names ▸ distinct) extracted hr
  obtain ⟨finding, hfinding, found⟩ := exists_mem_answers_of_mem applied hf
  obtain ⟨readable, rfl⟩ := Filter.apply_eq_ok_iff.mp found
  have keeps := ((Selection.mem_enumerate_foldl_folded_iff_keepsLast valid distinct applies).mp
    hm).2 _ hfinding
  refine (Filter.nearPoint_of_keepsLast_found keeps).congr fun name hn => ?_
  -- What the filter compared is what the row shows: the coordinate at the same index.
  obtain ⟨values, read⟩ := readable name hn
  have known := (applies _ hfinding).known name (by simpa using hn)
  obtain ⟨coordinates, reread, entry⟩ := shown name (names ▸ known)
  have own : (source.coordinate name).toOption.getD #[] = values := by
    rw [read]
    rfl
  have inside := Filter.inside_of_keepsLast_found keeps hn
  rw [own] at inside
  rw [coordinate?, read] at reread
  obtain rfl := Except.ok.inj reread
  rw [names] at entry
  rw [own]
  exact Except.ok.inj ((Extraction.shownIndex_of_inside inside).symm.trans entry)

namespace Extraction

/-- What points select, whatever the dimensions are that they are about. After a finding that is
folded and any others, before and after it, failing ones among them, the selected cells are those of
the grid that all findings keep by their last indices; where the finding names no dimension twice,
the indices of each cell along its dimensions are one of its groups. So each row that is extracted
with a filter about points is near one of its points: along both of its dimensions if they are two,
and otherwise along the one for the second coordinate of the point.
-/
theorem points_honoured_by_last_index {axes : List Axis}
    (distinct : (axes.map Axis.name).Nodup) (earlier : List Finding) {finding : Finding}
    {next : Selection}
    (folds : (earlier.foldl Selection.attempt (.ofAxes axes)).fold finding = .ok next)
    (later : List Finding)
    : (∀ cell,
        cell ∈ (later.foldl Selection.attempt next).enumerate
        ↔ InGrid axes cell
          ∧ ∀ other ∈ earlier ++ finding :: later,
              other.AppliesTo (axes.map Axis.name)
              → other.KeepsLast (axes.map Axis.name) cell)
      ∧ (∀ cell ∈ (later.foldl Selection.attempt next).enumerate,
          finding.KeepsLast (axes.map Axis.name) cell
          ∧ (finding.dimensions.Nodup → finding.Keeps (axes.map Axis.name) cell))
      ∧ ∀ (source : Source) (field : String) (filters : List Filter) (batchSize : Int)
          (maxRows : Option RowLimit) (table : Table),
          source.axesOf field = .ok axes
          → (source.extract field filters batchSize maxRows).outcome = .ok table
          → ∀ row < table.rowCount, ∀ filter ∈ filters, filter.NearPoint (table.entry row) := by
  have attempted : next = (earlier.foldl Selection.attempt (.ofAxes axes)).attempt finding := by
    rw [Selection.attempt, folds]
  have cells (cell : CellIndex)
      : cell ∈ (later.foldl Selection.attempt next).enumerate
        ↔ InGrid axes cell
          ∧ ∀ other ∈ earlier ++ finding :: later,
              other.AppliesTo (axes.map Axis.name)
              → other.KeepsLast (axes.map Axis.name) cell := by
    rw [← Selection.mem_enumerate_foldl_attempt distinct, List.foldl_append, List.foldl_cons,
      attempted]
  refine ⟨cells, fun cell hm => ?_, ?_⟩
  · have valid := (Selection.valid_ofAxes axes).foldl_attempt earlier
    have applies := ((Selection.fold_eq_ok_iff valid).mp folds).1
    rw [Selection.dimensions_foldl_attempt (Selection.valid_ofAxes axes)] at applies
    have keeps := ((cells cell).mp hm).2 finding (by simp) applies
    exact ⟨keeps, fun apart => (Finding.keepsLast_iff_keeps apart).mp keeps⟩
  · intro source field filters batchSize maxRows table located ends row hr filter hf
    exact Source.nearPoint_of_row located distinct ends hr hf

/-- Pairs along one dimension select the cells with their second indices, and an extraction with
points along two dimensions is one of rows near them.
-/
theorem points_honoured_by_last_index_sample
    : (∃ next,
        (Selection.ofAxes Dataset.sampled.axes).fold (.pairs "x" "x" [(0, 2), (1, 1)]) = .ok next
        ∧ [2, 0] ∈ next.enumerate
        ∧ [1, 1] ∈ next.enumerate
        ∧ [0, 0] ∉ next.enumerate)
      ∧ ∃ table,
          ((Dataset.sample "height").source.extract "v" Dataset.sampleFilters 1 none).outcome
            = .ok table
          ∧ ∀ row < table.rowCount,
              (Filter.point2d "y" "x" [(2.0, 20.0), (0.5, 20.0), (0.5, 10.0)] 0.5).NearPoint
                (table.entry row) := by
  have distinct : (Dataset.sampled.axes.map Axis.name).Nodup := by decide
  have folds : (Selection.ofAxes Dataset.sampled.axes).fold (.pairs "x" "x" [(0, 2), (1, 1)])
      = .ok _ :=
    (Selection.fold_eq_ok_iff (Selection.valid_ofAxes _)).mpr ⟨by decide, rfl⟩
  obtain ⟨cells, -, rows⟩ := points_honoured_by_last_index distinct [] folds []
  refine ⟨⟨_, folds, (cells [2, 0]).mpr (by decide), (cells [1, 1]).mpr (by decide),
    mt (cells [0, 0]).mp (by decide)⟩, ?_⟩
  have made : ((Dataset.sample "height").source.extract "v" Dataset.sampleFilters 1 none).outcome
      = _ :=
    (Dataset.tabular_sample "height").outcome_extract_selected (Dataset.sound_sample "height")
      (Dataset.usableOn_sample "height") (by decide)
  rw [if_neg (by decide), if_neg fun blocked => absurd blocked.2 (by decide)] at made
  refine ⟨_, made, fun row hr => ?_⟩
  exact rows _ "v" _ 1 none _ rfl made row hr _ (by simp [Dataset.sampleFilters])

/-- So not every cell that pairs select has its indices among them. -/
theorem points_not_honoured_along_one_dimension
    : ¬∀ (axes : List Axis) (earlier later : List Finding) (finding : Finding) (next : Selection),
        (axes.map Axis.name).Nodup
        → finding.isJoint
        → (earlier.foldl Selection.attempt (.ofAxes axes)).fold finding = .ok next
        → ∀ cell ∈ (later.foldl Selection.attempt next).enumerate,
            finding.Keeps (axes.map Axis.name) cell := by
  intro honoured
  have valid := Selection.valid_ofAxes [⟨"x", 3⟩]
  have distinct : ([⟨"x", 3⟩].map Axis.name).Nodup := by decide
  have applies : (Finding.pairs "x" "x" [(0, 2)]).AppliesTo ["x"] := by decide
  have inGrid : [2] ∈ (Selection.ofAxes [⟨"x", 3⟩]).enumerate :=
    (Selection.mem_enumerate_ofAxes (Axis.consistent_of_nodup distinct)).mpr (by decide)
  have selected := (Selection.mem_enumerate_folded_iff_keepsLast valid distinct applies).mpr
    ⟨inGrid, by decide⟩
  have kept := honoured [⟨"x", 3⟩] [] [] _ _ distinct rfl
    ((Selection.fold_eq_ok_iff valid).mpr ⟨applies, rfl⟩) [2] selected
  exact absurd kept (by decide)

end Extraction

end GridTable
