import GridTable.Filter.Basic
import GridTable.Proofs.Matching
import GridTable.Proofs.Selection.Findings
import GridTable.Proofs.Source

/-! What filters find, and that it keeps just the cells whose coordinates they accept.
-/

namespace GridTable.Filter

/-- Whether a filter accepts coordinates, given by the names of their dimensions. All
comparisons are those of doubles.
-/
def Accepts (coordinateOf : String → Float) : Filter → Prop
  | range name low high => low ≤ coordinateOf name ∧ coordinateOf name ≤ high
  | list name values tolerance =>
      ∃ value ∈ values,
        if tolerance == 0.0 then coordinateOf name == value
        else (coordinateOf name - value).abs ≤ tolerance
  | point2d first second points tolerance =>
      ∃ point ∈ points,
        (coordinateOf first - point.1).abs ≤ tolerance
        ∧ (coordinateOf second - point.2).abs ≤ tolerance
  | point3d time first second steps points tolerance =>
      (∃ step ∈ steps, coordinateOf time == step)
      ∧ ∃ point ∈ points,
          (coordinateOf first - point.1).abs ≤ tolerance
          ∧ (coordinateOf second - point.2).abs ≤ tolerance

instance decidableAccepts (coordinateOf : String → Float)
    : DecidablePred (Filter.Accepts coordinateOf)
  | range name low high =>
      inferInstanceAs (Decidable (low ≤ coordinateOf name ∧ coordinateOf name ≤ high))
  | list name values tolerance =>
      inferInstanceAs (Decidable (∃ value ∈ values,
        if tolerance == 0.0 then coordinateOf name == value
        else (coordinateOf name - value).abs ≤ tolerance))
  | point2d first second points tolerance =>
      inferInstanceAs (Decidable (∃ point ∈ points,
        (coordinateOf first - point.1).abs ≤ tolerance
        ∧ (coordinateOf second - point.2).abs ≤ tolerance))
  | point3d time first second steps points tolerance =>
      inferInstanceAs (Decidable
        ((∃ step ∈ steps, coordinateOf time == step)
        ∧ ∃ point ∈ points,
            (coordinateOf first - point.1).abs ≤ tolerance
            ∧ (coordinateOf second - point.2).abs ≤ tolerance))

/-- What a filter finds among the coordinates along each dimension. -/
def found (coordinatesOf : String → Array Float) : Filter → Finding
  | range name low high => .single name (Matching.inInterval low high (coordinatesOf name))
  | list name values tolerance =>
      .single name (Matching.amongValues values tolerance (coordinatesOf name))
  | point2d first second points tolerance =>
      .pairs first second
        (Matching.pairsNearAny (coordinatesOf first) (coordinatesOf second) points tolerance)
  | point3d time first second steps points tolerance =>
      let moments := (Matching.amongValues steps 0.0 (coordinatesOf time)).toList
      let pairs :=
        Matching.pairsNearAny (coordinatesOf first) (coordinatesOf second) points tolerance
      .triplets time first second (moments.flatMap fun t => pairs.map fun (i, j) => (t, i, j))

@[simp] theorem dimensions_found (coordinatesOf : String → Array Float) (filter : Filter)
    : (filter.found coordinatesOf).dimensions = filter.dimensions := by
  cases filter <;> rfl

/-- What a filter finds depends on the coordinates along its dimensions alone. -/
theorem found_congr {coordinatesOf others : String → Array Float} {filter : Filter}
    (h : ∀ name ∈ filter.dimensions, coordinatesOf name = others name)
    : filter.found coordinatesOf = filter.found others := by
  cases filter <;> simp_all [found, dimensions]

theorem found_ne_unsupported (coordinatesOf : String → Array Float) (filter : Filter)
    (kind : String)
    : filter.found coordinatesOf ≠ .unsupported kind := by
  cases filter <;> nofun

theorem outcome_apply {source : Source} {coordinatesOf : String → Array Float}
    {filter : Filter}
    (readable : ∀ name ∈ filter.dimensions,
      source.coordinate name = .ok (coordinatesOf name))
    : (filter.apply source).outcome = .ok (filter.found coordinatesOf) := by
  cases filter <;> simp_all [apply, found, dimensions, pure]

/-- A filter reads the coordinates along its dimensions, and fails only with that. -/
theorem outcome_apply_eq (source : Source) (filter : Filter)
    : (filter.apply source).outcome
      = (fun _ => filter.found fun name => (source.coordinate name).toOption.getD #[])
        <$> filter.dimensions.mapM source.coordinate := by
  cases filter with
  | range name low high | list name values tolerance =>
      cases h : source.coordinate name <;>
        simp [apply, found, dimensions, h, pure, Except.pure, Except.toOption]
  | point2d first second points tolerance =>
      cases hfirst : source.coordinate first <;> cases hsecond : source.coordinate second <;>
        simp [apply, found, dimensions, hfirst, hsecond, pure, Except.pure, Except.toOption]
  | point3d time first second steps points tolerance =>
      cases htime : source.coordinate time <;> cases hfirst : source.coordinate first <;>
        cases hsecond : source.coordinate second <;>
        simp [apply, found, dimensions, htime, hfirst, hsecond, pure, Except.pure,
          Except.toOption]

/-- A filter that can be applied has read the coordinates along its dimensions. -/
theorem apply_eq_ok_iff {source : Source} {filter : Filter} {finding : Finding}
    : (filter.apply source).outcome = .ok finding
      ↔ (∀ name ∈ filter.dimensions, ∃ values, source.coordinate name = .ok values)
        ∧ (filter.found fun name => (source.coordinate name).toOption.getD #[]) = finding := by
  rw [outcome_apply_eq]
  cases read : filter.dimensions.mapM source.coordinate with
  | error failure =>
      obtain ⟨name, hm, failed⟩ := Outcome.exists_of_mapM_eq_error read
      refine iff_of_false nofun fun applied => ?_
      obtain ⟨values, own⟩ := applied.1 name hm
      cases failed.symm.trans own
  | ok coordinates =>
      rw [Outcome.map_ok, Except.ok.injEq]
      exact (and_iff_right fun name hm => Outcome.exists_answer_of_mem read hm).symm

theorem exists_of_apply_eq_error {source : Source} {filter : Filter} {failure : Failure}
    (h : (filter.apply source).outcome = .error failure)
    : ∃ name ∈ filter.dimensions, source.coordinate name = .error failure := by
  rw [outcome_apply_eq] at h
  cases read : filter.dimensions.mapM source.coordinate with
  | ok coordinates => simp [read] at h
  | error own =>
      rw [read, Outcome.map_error] at h
      obtain rfl := Except.error.inj h
      exact Outcome.exists_of_mapM_eq_error read

theorem exists_found_of_apply {source : Source} {filter : Filter} {finding : Finding}
    (h : (filter.apply source).outcome = .ok finding)
    : ∃ coordinatesOf, filter.found coordinatesOf = finding :=
  ⟨_, (apply_eq_ok_iff.mp h).2⟩

/-- The indices in what a filter finds are those of coordinates. -/
theorem inside_of_mem_groups_found {coordinatesOf : String → Array Float} {filter : Filter}
    {group : List Int} (h : group ∈ (filter.found coordinatesOf).groups)
    : List.Forall₂ (fun (index : Int) name => 0 ≤ index ∧ index < (coordinatesOf name).size)
        group filter.dimensions := by
  have inside {test : Float → Bool} {name : String} {index : Int}
      (hm : index ∈ Matching.positions test (coordinatesOf name))
      : 0 ≤ index ∧ index < (coordinatesOf name).size :=
    (Matching.mem_positions.mp hm).1
  cases filter with
  | range name low high | list name values tolerance =>
      obtain ⟨index, hindex, rfl⟩ := List.mem_map.mp h
      exact .cons (inside hindex) .nil
  | point2d first second points tolerance =>
      obtain ⟨⟨i, j⟩, hpair, rfl⟩ := List.mem_map.mp h
      obtain ⟨point, -, hi, hj⟩ := Matching.mem_pairsNearAny.mp hpair
      exact .cons (inside hi) (.cons (inside hj) .nil)
  | point3d time first second steps points tolerance =>
      obtain ⟨⟨t, i, j⟩, htriplet, rfl⟩ := List.mem_map.mp h
      obtain ⟨moment, ht, hpairs⟩ := List.mem_flatMap.mp htriplet
      obtain ⟨⟨i', j'⟩, hpair, same⟩ := List.mem_map.mp hpairs
      obtain ⟨rfl, rfl, rfl⟩ : moment = t ∧ i' = i ∧ j' = j := by simpa using same
      obtain ⟨point, -, hi, hj⟩ := Matching.mem_pairsNearAny.mp hpair
      exact .cons (inside ht) (.cons (inside hi) (.cons (inside hj) .nil))

/-- Where the indices along its dimensions are in range, what a filter finds keeps a cell just if
the filter accepts the coordinates there.
-/
theorem keeps_found_iff {coordinatesOf : String → Array Float} {filter : Filter}
    {dimensions : List String} {cell : CellIndex}
    (inside : ∀ name ∈ filter.dimensions,
      0 ≤ entryAlong dimensions cell name
      ∧ entryAlong dimensions cell name < (coordinatesOf name).size)
    : (filter.found coordinatesOf).Keeps dimensions cell
      ↔ filter.Accepts fun name =>
          Matching.coordinateAt (coordinatesOf name) (entryAlong dimensions cell name) := by
  cases filter with
  | range name low high =>
      rw [found, Finding.Keeps, Matching.inInterval, Matching.mem_positions,
        Matching.isBetween_iff]
      exact and_iff_right (inside name (by simp [Filter.dimensions]))
  | list name values tolerance =>
      rw [found, Finding.Keeps, Matching.amongValues, Matching.mem_positions,
        Matching.isOneOf_iff]
      exact and_iff_right (inside name (by simp [Filter.dimensions]))
  | point2d first second points tolerance =>
      exact Matching.mem_pairsNearAny_of_inside points tolerance
        (inside first (by simp [Filter.dimensions]))
        (inside second (by simp [Filter.dimensions]))
  | point3d time first second steps points tolerance =>
      have near := Matching.mem_pairsNearAny_of_inside points tolerance
        (inside first (by simp [Filter.dimensions]))
        (inside second (by simp [Filter.dimensions]))
      have zero : ((0.0 : Float) == 0.0) = true := by decide
      have moment : entryAlong dimensions cell time
            ∈ Matching.amongValues steps 0.0 (coordinatesOf time)
          ↔ ∃ step ∈ steps,
              Matching.coordinateAt (coordinatesOf time) (entryAlong dimensions cell time)
              == step := by
        rw [Matching.amongValues, Matching.mem_positions, Matching.isOneOf_iff]
        simpa [zero] using fun _ _ _ => inside time (by simp [Filter.dimensions])
      simp [found, Finding.Keeps, Accepts, ← near, ← moment, IndexSet.mem_def]

end GridTable.Filter
