import GridTable.Proofs.Extraction.Columns
import GridTable.Proofs.Selection.Estimate

/-! The row limit: what is estimated before anything is read bounds the rows of the table.
-/

namespace GridTable.Extraction

theorem rowCount_le_estimate {source : Source} {field : String} {selection : Selection}
    {batchSize : Int} {maxRows : Option RowLimit} {table : Table}
    (h : (extract source field selection batchSize maxRows).outcome = .ok table)
    : table.rowCount ≤ selection.estimate := by
  have fewer := selection.length_enumerate_le_estimate
  rw [rowCount_of_extract h]
  split <;> omega

theorem checkRows_eq_ok_iff {estimated : Nat} {limit : RowLimit}
    : checkRows estimated (some limit) = .ok () ↔ estimated ≤ limit.rows := by
  rw [checkRows]
  split
  · next more => simp [more]
  · next most => simpa [pure, Except.pure] using most

theorem exists_limit_of_checkRows_eq_error {estimated : Nat} {maxRows : Option RowLimit}
    {failure : Failure} (h : checkRows estimated maxRows = .error failure)
    : ∃ limit : RowLimit,
        failure = .error (.rowLimitExceeded (toString estimated) limit.shown) := by
  cases maxRows with
  | none => cases h
  | some limit =>
      rw [checkRows] at h
      split at h
      · exact ⟨limit, (Except.error.inj h).symm⟩
      · cases h

/-- Whatever findings are folded or refused, no more cells are enumerated than estimated, and
as many as long as no finding over several dimensions was folded. So a table within a row
limit has at most as many rows.
-/
theorem rows_within_limit (axes : List Axis) (findings : List Finding)
    : (findings.foldl Selection.attempt (.ofAxes axes)).enumerate.length
        ≤ (findings.foldl Selection.attempt (.ofAxes axes)).estimate
      ∧ ((∀ (earlier later : List Finding) (finding : Finding),
            findings = earlier ++ finding :: later
            → finding.isJoint
            → ∃ failure,
                (earlier.foldl Selection.attempt (.ofAxes axes)).fold finding
                = .error failure)
          → (findings.foldl Selection.attempt (.ofAxes axes)).enumerate.length
            = (findings.foldl Selection.attempt (.ofAxes axes)).estimate)
      ∧ ∀ (source : Source) (field : String) (filters : List Filter) (batchSize : Int)
          (limit : RowLimit) (table : Table),
          (source.extract field filters batchSize (some limit)).outcome = .ok table
          → table.rowCount ≤ limit.rows := by
  refine ⟨Selection.length_enumerate_le_estimate _, fun refused => ?_, ?_⟩
  · exact Selection.length_enumerate_of_explicit_none
      (Selection.explicit_foldl_attempt refused)
  · intro source field filters batchSize limit table h
    rw [Source.extract, Traced.outcome_bind] at h
    obtain ⟨selection, -, h⟩ := Outcome.bind_eq_ok_iff.mp h
    obtain ⟨-, -, allowed, -⟩ := extract_eq_ok_iff.mp h
    have within := checkRows_eq_ok_iff.mp allowed
    have bounded := rowCount_le_estimate h
    omega

/-- A source of one variable along one dimension without coordinates. -/
def unlabelled (size : Nat) : Source where
  axes := [⟨"x", size⟩]
  axesOf := fun _ => .ok [⟨"x", size⟩]
  coordinate := fun name => .error (.error (.dimensionNotFound name none))
  points := fun _ cells => .ok (cells.map fun _ => 0.5)

/-- A refused finding over two dimensions leaves the estimate exact, also with a repeated name;
three cells in batches of two are within a limit of three rows.
-/
theorem rows_within_limit_unlabelled
    : ([Finding.pairs "x" "z" [(0, 0)]].foldl Selection.attempt
          (.ofAxes [⟨"x", 2⟩, ⟨"x", 3⟩])).enumerate.length = 9
      ∧ ∃ table,
          ((unlabelled 3).extract "v" [] 2 (some (.ofInt 3))).outcome = .ok table
          ∧ table.rowCount ≤ 3 := by
  obtain ⟨-, same, limited⟩ :=
    rows_within_limit [⟨"x", 2⟩, ⟨"x", 3⟩] [.pairs "x" "z" [(0, 0)]]
  constructor
  · refine (same ?_).trans rfl
    rintro (_ | ⟨first, earlier⟩) later finding split -
    · obtain ⟨rfl, rfl⟩ := List.cons.inj split
      exact ⟨_, rfl⟩
    · simp at split
  · have ⟨table, run⟩ : ∃ table,
        ((unlabelled 3).extract "v" [] 2 (some (.ofInt 3))).outcome = .ok table := by
      rw [Source.extract, Traced.outcome_bind]
      have read : batches 2 (Selection.ofAxes [⟨"x", 3⟩]).enumerate
          = .ok [[[0], [1]], [[2]]] := by
        have cells : (Selection.ofAxes [⟨"x", 3⟩]).enumerate = [[0], [1], [2]] := rfl
        rw [cells, batches, if_pos (by decide)]
        simp [pieces, pure, Except.pure]
      exact ⟨_, Outcome.bind_eq_ok_iff.mpr ⟨.ofAxes [⟨"x", 3⟩], rfl,
        extract_eq_ok_iff.mpr ⟨rfl, by decide, rfl, [none], _, _, _, rfl, read, rfl, rfl, rfl⟩⟩⟩
    exact ⟨table, run, Int.ofNat_le.mp (limited _ _ _ _ _ _ run)⟩

end GridTable.Extraction
