import GridTable.Job.Processing
import GridTable.Proofs.Table.Saving

/-! Processing a job: it fails with all files as they were, or its table is saved.
-/

namespace GridTable.Job

/-- The path of the table of a job. -/
def target (job : Job) (output : Option String) : String :=
  Path.withTableEnding (job.outputName output)

theorem withTableEnding_target (job : Job) (output : Option String)
    : Path.withTableEnding (job.target output) = job.target output :=
  Path.withTableEnding_withTableEnding _

theorem pos_of_unlimited : ∀ limit ∈ (none : Option Int), 0 < limit := by
  simp

/-- The table of a job out of what its input holds. -/
def tableFrom (job : Job) (dataset : Dataset) : Except Failure Table :=
  (dataset.source.extract job.field job.filters job.batchSize
    (job.maxRows.map RowLimit.ofInt)).outcome

variable {job : Job} {store : FileStore} {output : Option String} {replace : Bool}

/-- The steps of a job before anything is written. -/
theorem outcome_prepare
    : (job.prepare store output replace).outcome
      = (do
          let path ← store.ensureWritable (job.outputName output) replace
          let dataset ← (store.openDataset (Path.ofText job.input)).outcome
          let table ← job.tableFrom dataset
          pure (path, table)) := by
  simp [prepare, tableFrom]

theorem prepare_eq_ok_iff {path : String} {table : Table}
    : (job.prepare store output replace).outcome = .ok (path, table)
      ↔ store.ensureWritable (job.outputName output) replace = .ok path
        ∧ ∃ dataset,
            (store.openDataset (Path.ofText job.input)).outcome = .ok dataset
            ∧ job.tableFrom dataset = .ok table := by
  rw [outcome_prepare]
  simp only [Outcome.bind_eq_ok_iff, Outcome.pure_eq_ok_iff, Prod.mk.injEq]
  constructor
  · rintro ⟨own, writable, dataset, opened, made, extracted, rfl, rfl⟩
    exact ⟨writable, dataset, opened, extracted⟩
  · rintro ⟨writable, dataset, opened, extracted⟩
    exact ⟨path, writable, dataset, opened, table, extracted, rfl, rfl⟩

/-- What a job has done that ended well: the table of its input is saved at its target. -/
structure Done (job : Job) (store : FileStore) (output : Option String) (replace : Bool)
    (dataset : Dataset) (table : Table) (place : Place) (after : FileStore)
    : Prop where
  opened : (store.openDataset (Path.ofText job.input)).outcome = .ok dataset
  extracted : job.tableFrom dataset = .ok table
  saved : store.Saved table (job.target output) replace place after

theorem process_cases {after : FileStore} {run : Traced String}
    (h : job.process store output replace = (after, run))
    : (∃ failure, run.outcome = .error failure ∧ after.files = store.files)
      ∨ (run.outcome = .ok (job.target output)
        ∧ ∃ dataset table place, job.Done store output replace dataset table place after) := by
  cases prepared : (job.prepare store output replace).outcome with
  | error failure =>
      simp only [process, prepared, Prod.mk.injEq] at h
      obtain ⟨rfl, rfl⟩ := h
      exact Or.inl ⟨failure, rfl, rfl⟩
  | ok answer =>
      obtain ⟨path, table⟩ := answer
      obtain ⟨writable, dataset, opened, extracted⟩ := prepare_eq_ok_iff.mp prepared
      obtain ⟨rfl, -⟩ := FileStore.ensureWritable_eq_ok_iff.mp writable
      rcases saving : store.saveTable table job.compression
          (Path.withTableEnding (job.outputName output)) replace with ⟨written, save⟩
      simp only [process, prepared, saving, Prod.mk.injEq] at h
      obtain ⟨rfl, rfl⟩ := h
      have cases := FileStore.saveTable_cases saving
      rw [Path.withTableEnding_withTableEnding] at cases
      rcases cases with ⟨failure, failed, files⟩ | ⟨answered, place, saved⟩
      · exact Or.inl ⟨failure, by simp [prepared, failed], files⟩
      · refine Or.inr ⟨by simp [prepared, answered, target, pure], dataset, table, place, ?_⟩
        exact ⟨opened, extracted, saved⟩

end GridTable.Job
