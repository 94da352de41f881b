import GridTable.Proofs.Dataset.Selected
import GridTable.Proofs.Extraction.Batches
import GridTable.Proofs.Extraction.FullScan
import GridTable.Proofs.Selection.Estimate

/-! The size of batches: extractions in batches of different sizes end alike, with the same table
or with failures of one class.
-/

namespace GridTable

namespace Extraction

variable {source : Source} {field : String} {first second : Int}

/-- A size of which batches can be made. -/
def IsBatchSize (size : Int) : Prop :=
  1 ≤ size ∧ size ≤ batchLimit

instance : DecidablePred IsBatchSize :=
  fun size => inferInstanceAs (Decidable (1 ≤ size ∧ size ≤ batchLimit))

/-- The values of some cells, read in batches. -/
def valuesInBatches (source : Source) (field : String) (size : Int) (cells : List CellIndex)
    : Except Failure (List Float) :=
  List.flatten <$> (pieces size.toNat cells).mapM (source.points field)

/-- Only the reading of values depends on the size of batches, if it is usable. -/
theorem readTable_of_isBatchSize {size : Int} (usable : IsBatchSize size)
    (selection : Selection)
    : readTable source field selection size
      = (do
          let coordinates ← selection.dimensions.mapM source.coordinate?
          let values ← valuesInBatches source field size selection.enumerate
          let columns ←
            dimensionColumns selection.enumerate 0 (selection.dimensions.zip coordinates)
          pure (Table.ofColumns (columns ++ [(field, values)]))) := by
  obtain ⟨positive, small⟩ := usable
  have read : batches size selection.enumerate = .ok (pieces size.toNat selection.enumerate) :=
    batches_eq_ok_iff.mpr ⟨⟨by omega, small⟩, rfl⟩
  have all : (pieces size.toNat selection.enumerate).flatten = selection.enumerate :=
    flatten_pieces (by omega) _
  simp only [readTable, read, Outcome.ok_bind, all]
  rfl

theorem alike_extract {selection : Selection} (hfirst : IsBatchSize first)
    (hsecond : IsBatchSize second)
    (values : Outcome.Alike (valuesInBatches source field first selection.enumerate)
      (valuesInBatches source field second selection.enumerate))
    (maxRows : Option RowLimit)
    : Outcome.Alike (extract source field selection first maxRows).outcome
        (extract source field selection second maxRows).outcome := by
  have tables : Outcome.Alike (readTable source field selection first)
      (readTable source field selection second) := by
    rw [readTable_of_isBatchSize hfirst, readTable_of_isBatchSize hsecond]
    exact (Outcome.Alike.refl _).bind fun coordinates => values.bind fun read => .refl _
  rw [outcome_extract_eq_readTable, outcome_extract_eq_readTable]
  refine (Outcome.Alike.refl _).bind fun checked => ?_
  split
  · exact .refl _
  · exact (Outcome.Alike.refl _).bind fun allowed => tables

/-- Where values are read one by one, the batches do not matter at all. -/
theorem valuesInBatches_of_scalar {scalar : CellIndex → Except Failure Float}
    (single : ∀ cells, source.points field cells = cells.mapM scalar) {size : Int}
    (usable : IsBatchSize size) (cells : List CellIndex)
    : valuesInBatches source field size cells = cells.mapM scalar := by
  have positive : size.toNat ≠ 0 := by
    have := usable.1
    omega
  rw [valuesInBatches, funext single, Outcome.flatten_mapM_mapM, flatten_pieces positive]

/-- Divisible cells of a dataset are read in batches as they are all at once. -/
theorem alike_points {dataset : Dataset} {cells : List CellIndex}
    (divisible : dataset.Divisible field cells) (filled : cells ≠ []) {size : Int}
    (usable : IsBatchSize size)
    : Outcome.Alike (valuesInBatches dataset.source field size cells)
        (dataset.points field cells) := by
  have positive : size.toNat ≠ 0 := by
    have := usable.1
    omega
  have all := flatten_pieces positive cells
  have some : pieces size.toNat cells ≠ [] := fun none => filled (by simpa [none] using all.symm)
  have read := Dataset.Divisible.read_parts (all.symm ▸ divisible)
    (fun part hm => ne_nil_of_mem_pieces hm) some
  rwa [all] at read

theorem valuesInBatches_nil (source : Source) (field : String) (size : Int)
    : valuesInBatches source field size [] = .ok [] := by
  simp [valuesInBatches, pieces, pure, Except.pure]

/-- Divisible cells of a dataset are read alike in all batches. -/
theorem alike_valuesInBatches {dataset : Dataset} {cells : List CellIndex}
    (divisible : dataset.Divisible field cells) (hfirst : IsBatchSize first)
    (hsecond : IsBatchSize second)
    : Outcome.Alike (valuesInBatches dataset.source field first cells)
        (valuesInBatches dataset.source field second cells) := by
  by_cases filled : cells = []
  · subst filled
    rw [valuesInBatches_nil, valuesInBatches_nil]
    exact .ok []
  · exact (alike_points divisible filled hfirst).trans
      (alike_points divisible filled hsecond).symm

/-- The size of batches does not show. Where values are read one by one, extractions end in the
very same way, whatever is selected. Where a dataset reads many cells at once they end alike, if
the selected cells are cells of its variable, as those that filters select are; or if no cell
without a value comes before one that is not found.
-/
theorem alike_of_batch_sizes {first second : Int} (hfirst : IsBatchSize first)
    (hsecond : IsBatchSize second) (maxRows : Option RowLimit)
    : (∀ (source : Source) (field : String) (scalar : CellIndex → Except Failure Float),
        (∀ cells, source.points field cells = cells.mapM scalar)
        → (∀ selection,
            (extract source field selection first maxRows).outcome
            = (extract source field selection second maxRows).outcome)
          ∧ ∀ filters,
              (source.extract field filters first maxRows).outcome
              = (source.extract field filters second maxRows).outcome)
      ∧ (∀ (dataset : Dataset) (field : String) (axes : List Axis) (findings : List Finding),
          (∀ stored,
            dataset.lookup? field = some stored
            → (findings.foldl Selection.attempt (.ofAxes axes)).enumerate.Pairwise
                fun earlier later => stored.IsUnreadable earlier → ¬stored.IsLost later)
          → Outcome.Alike
              (extract dataset.source field (findings.foldl Selection.attempt (.ofAxes axes))
                first maxRows).outcome
              (extract dataset.source field (findings.foldl Selection.attempt (.ofAxes axes))
                second maxRows).outcome)
      ∧ ∀ (dataset : Dataset) (field : String) (filters : List Filter),
          dataset.Sound
          → Outcome.Alike (dataset.source.extract field filters first maxRows).outcome
              (dataset.source.extract field filters second maxRows).outcome := by
  refine ⟨?_, ?_, ?_⟩
  · intro source field scalar single
    have tables (selection : Selection)
        : readTable source field selection first = readTable source field selection second := by
      rw [readTable_of_isBatchSize hfirst, readTable_of_isBatchSize hsecond,
        valuesInBatches_of_scalar single hfirst, valuesInBatches_of_scalar single hsecond]
    have same (selection : Selection)
        : (extract source field selection first maxRows).outcome
          = (extract source field selection second maxRows).outcome := by
      rw [outcome_extract_eq_readTable, outcome_extract_eq_readTable, tables]
    exact ⟨same, fun filters => by simp only [Source.extract, Traced.outcome_bind, same]⟩
  · intro dataset field axes findings ordered
    have valid := (Selection.valid_ofAxes axes).foldl_attempt findings
    have divisible : dataset.Divisible field
        (findings.foldl Selection.attempt (.ofAxes axes)).enumerate :=
      {
        uniform := fun cell hm other ho =>
          (Selection.length_of_mem_enumerate valid hm).trans
            (Selection.length_of_mem_enumerate valid ho).symm
        ordered := ordered
      }
    exact alike_extract hfirst hsecond (alike_valuesInBatches divisible hfirst hsecond) maxRows
  · intro dataset field filters sound
    rw [Source.extract, Source.extract, Traced.outcome_bind, Traced.outcome_bind]
    cases selected : (dataset.source.select field filters).outcome with
    | error failure => exact .refl (.error failure)
    | ok selection =>
        have divisible := sound.divisible_of_select selected
        have values := alike_valuesInBatches divisible hfirst hsecond
        exact alike_extract hfirst hsecond values maxRows

/-- A selection that does not fit the sample: its first dimension has one place more. -/
def tooWide : List Axis :=
  [⟨"x", 4⟩, ⟨"y", 2⟩]

/-- Batches of one cell and of four cells end alike: where cells are read one by one, where some
are not found, and where a coordinate takes the name of the dimension of a read.
-/
theorem alike_of_batch_sizes_sample
    : ((Dataset.sample "height").scalarSource.extract "v" Dataset.sampleFilters 1 none).outcome
        = ((Dataset.sample "height").scalarSource.extract "v" Dataset.sampleFilters 4 none).outcome
      ∧ Outcome.Alike
          (extract (Dataset.sample "height").source "v" (.ofAxes tooWide) 1 none).outcome
          (extract (Dataset.sample "height").source "v" (.ofAxes tooWide) 4 none).outcome
      ∧ Outcome.Alike
          ((Dataset.sample "points").source.extract "v" Dataset.sampleFilters 1 none).outcome
          ((Dataset.sample "points").source.extract "v" Dataset.sampleFilters 4 none).outcome := by
  have readable : ∀ stored, (Dataset.sample "height").lookup? "v" = some stored →
      (Selection.ofAxes tooWide).enumerate.Pairwise
        fun earlier later => stored.IsUnreadable earlier → ¬stored.IsLost later := by
    intro stored found
    obtain rfl : Dataset.sampled = stored := Option.some.inj found
    decide
  obtain ⟨single, fitting, filtered⟩ := alike_of_batch_sizes (by decide : IsBatchSize 1)
    (by decide : IsBatchSize 4) none
  refine ⟨?_, ?_, ?_⟩
  · exact (single (Dataset.sample "height").scalarSource "v" _ fun _ => rfl).2 _
  · exact fitting (Dataset.sample "height") "v" tooWide [] readable
  · exact filtered _ "v" _ (Dataset.sound_sample "points")

/-- A variable of texts, the first of which is no numeral. -/
def wordy : Dataset where
  fields := [⟨"v", [⟨"x", 2⟩], .text 1, .texts #["a", "1"], false, []⟩]

/-- Batches of a size that is no count end otherwise than batches of one cell. So do batches of
three cells where the first cell has no value and the third one is not found.
-/
theorem not_alike_of_batch_sizes
    : (∃ table, (extract (Dataset.sample "height").source "v" (.ofAxes Dataset.sampled.axes) 1
          none).outcome = .ok table)
      ∧ (extract (Dataset.sample "height").source "v" (.ofAxes Dataset.sampled.axes)
          9223372036854775808 none).outcome
        = raiseFault .badValue
      ∧ (extract wordy.source "v" (.ofAxes [⟨"x", 3⟩]) 1 none).outcome = raiseFault .badValue
      ∧ (extract wordy.source "v" (.ofAxes [⟨"x", 3⟩]) 3 none).outcome
        = Dataset.readFailure "batched read of 'v'" "" (some .badIndex) := by
  have consistent := Axis.consistent_of_nodup (Dataset.tabular_sample "height").distinct
  have extracted (size : Int) (positive : 1 ≤ size) :=
    (Dataset.tabular_sample "height").outcome_extract (Dataset.sound_sample "height")
      (rfl : (Selection.ofAxes Dataset.sampled.axes).dimensions = _)
      (fun cell => (Selection.mem_enumerate_ofAxes consistent).mp) positive
  have cells : (Selection.ofAxes [⟨"x", 3⟩]).enumerate = [[0], [1], [2]] := rfl
  have worded (size : Int) (usable : IsBatchSize size)
      : (extract wordy.source "v" (.ofAxes [⟨"x", 3⟩]) size none).outcome
        = valuesInBatches wordy.source "v" size [[0], [1], [2]] >>= fun values =>
            pure (Table.ofColumns [("x", [0.0, 1.0, 2.0]), ("v", values)]) := by
    rw [outcome_extract_eq_readTable, readTable_of_isBatchSize usable, cells]
    rfl
  refine ⟨?_, ?_, ?_, ?_⟩
  · have read := extracted 1 (by decide)
    rw [if_neg (by decide), if_neg fun blocked => absurd blocked.2 (by decide)] at read
    exact ⟨_, read⟩
  · exact (extracted 9223372036854775808 (by decide)).trans (if_pos (by decide))
  · have cut : pieces (1 : Int).toNat [[0], [1], [2]] = [[[(0 : Int)]], [[1]], [[2]]] := by
      simp [pieces]
    rw [worded 1 (by decide), valuesInBatches, cut]
    rfl
  · have cut : pieces (3 : Int).toNat [[0], [1], [2]] = [[[(0 : Int)], [1], [2]]] := by
      simp [pieces]
    rw [worded 3 (by decide), valuesInBatches, cut]
    rfl

end Extraction

end GridTable
