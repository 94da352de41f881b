import GridTable.Proofs.Extraction.Numbers
import GridTable.Proofs.Extraction.RowLimit
import GridTable.Proofs.Job.Faults

/-! What the summary of a job foretells about its processing: where the table goes, and how many
rows it has at most. Four obstacles are met only when the table is extracted, and one when it is
written.
-/

namespace GridTable

open Outcome

namespace Job

variable {job : Job} {store after : FileStore} {output : Option String} {dataset : Dataset}
variable {stored : Variable} {selection : Selection} {summary : Summary} {failure : Failure}
variable {run : Traced String}

-----------------------------------------------------------------------------------------
-- Summaries
-----------------------------------------------------------------------------------------

/-- What a summary is made of: the input is there and can be opened, and the filters select from
the variable of the job.
-/
theorem summarize_eq_ok_iff
    : (job.summarize store output).outcome = .ok summary
      ↔ job.check store = .ok ()
        ∧ ∃ dataset axes selection,
            (store.openDataset (Path.ofText job.input)).outcome = .ok dataset
            ∧ dataset.axesOf job.field = .ok axes
            ∧ (dataset.source.select job.field job.filters).outcome = .ok selection
            ∧ summary
              = ⟨
                  job.input, job.field, job.target output, axes, job.filterKinds,
                  selection.estimate
                ⟩ := by
  simp only [summarize, Source.estimateRows, Traced.outcome_bind, Traced.outcome_liftM,
    Traced.outcome_pure, bind_eq_ok_iff, pure_eq_ok_iff, target, Unique.exists_iff]
  constructor
  · rintro ⟨there, dataset, opened, axes, located, rows, ⟨selection, selected, rfl⟩, rfl⟩
    exact ⟨there, dataset, axes, selection, opened, located, selected, rfl⟩
  · rintro ⟨there, dataset, axes, selection, opened, located, selected, rfl⟩
    exact ⟨there, dataset, opened, axes, located, _, ⟨selection, selected, rfl⟩, rfl⟩

/-- What no summary looks at, and the failure that it makes of the extraction: the variable has the
name of one of its dimensions; the size of batches is no count; a coordinate takes the name of the
dimension of a read; or an index has no coordinate.
-/
inductive Unforeseen (job : Job) (dataset : Dataset) (stored : Variable) (selection : Selection)
    : Failure → Prop
  | named (own : job.field ∈ selection.dimensions)
    : Unforeseen job dataset stored selection (.error (.configuration job.field .valueColumn))
  | uncountable (apart : job.field ∉ selection.dimensions)
    (large : Extraction.batchLimit < job.batchSize)
    : Unforeseen job dataset stored selection (.fault .badValue)
  | taken (apart : job.field ∉ selection.dimensions)
    (countable : job.batchSize ≤ Extraction.batchLimit)
    (filled : selection.enumerate ≠ []) (taken : dataset.isPointsTaken)
    : Unforeseen job dataset stored selection
        (.error (.dataSource ("batched read of '" ++ job.field ++ "'") ⟨"", some .badValue⟩))
  | unshown (apart : job.field ∉ selection.dimensions)
    (countable : job.batchSize ≤ Extraction.batchLimit) (free : ¬dataset.isPointsTaken)
    (unshown : ∃ cell ∈ selection.enumerate, dataset.IsUnshown stored cell)
    : Unforeseen job dataset stored selection (.fault .badIndex)

/-- What no summary looks at, and the failure that it makes of the run: something unforeseen about
the extraction, or a table that the writer of table files refuses otherwise than by the system and
for an unusable value.
-/
inductive Obstacle (job : Job) (store : FileStore) (output : Option String) (dataset : Dataset)
    (stored : Variable) (selection : Selection)
    : Failure → Prop
  | early {failure : Failure} (unforeseen : Unforeseen job dataset stored selection failure)
    : Obstacle job store output dataset stored selection failure
  | refused {table : Table} {fault : Fault} (extracted : job.tableFrom dataset = .ok table)
    (refused : store.Spurns table job.compression (job.target output) fault)
    (foreign : ¬fault.isOfSystemOrValue)
    : Obstacle job store output dataset stored selection (.fault fault)

theorem tableFrom_of_select (unlimited : job.maxRows = none)
    (selected : (dataset.source.select job.field job.filters).outcome = .ok selection)
    : job.tableFrom dataset
      = if job.field ∈ selection.dimensions then
          .error (.error (.configuration job.field .valueColumn))
        else Extraction.readTable dataset.source job.field selection job.batchSize := by
  rw [tableFrom, Source.outcome_extract_of_select selected,
    Extraction.outcome_extract_eq_readTable, Source.checkSupportedRank_of_select selected, ok_bind,
    unlimited]
  split <;> rfl

/-- What is unforeseen keeps a job from its table. -/
theorem Unforeseen.tableFrom_eq (obstacle : job.Unforeseen dataset stored selection failure)
    (sound : dataset.Sound) (unlimited : job.maxRows = none)
    (selected : (dataset.source.select job.field job.filters).outcome = .ok selection)
    (found : dataset.lookup? job.field = some stored) (numeric : stored.element.isNumeric)
    : job.tableFrom dataset = .error failure := by
  have positive : 1 ≤ job.batchSize := job.batchSize_pos
  rw [tableFrom_of_select unlimited selected]
  cases obstacle with
  | named own => rw [if_pos own]
  | uncountable apart large =>
      rw [if_neg apart]
      exact sound.readTable_of_batchLimit_lt selected large
  | taken apart countable filled taken =>
      have usable : Extraction.IsBatchSize job.batchSize := ⟨positive, countable⟩
      rw [if_neg apart, sound.readTable_of_select selected found usable,
        sound.valuesInBatches_of_isPointsTaken selected usable filled taken]
      rfl
  | unshown apart countable free unshown =>
      have readable : ∀ cell ∈ selection.enumerate, ¬stored.IsUnreadable cell := fun cell hm =>
        sound.not_isUnreadable_of_select selected found numeric hm
      rw [if_neg apart]
      exact (sound.readTable_eq_badIndex_iff selected found positive).mpr
        ⟨countable, free, readable, unshown⟩

/-- If nothing is unforeseen, a job has its table, of at most as many rows as estimated. -/
theorem exists_tableFrom (sound : dataset.Sound) (unlimited : job.maxRows = none)
    (selected : (dataset.source.select job.field job.filters).outcome = .ok selection)
    (found : dataset.lookup? job.field = some stored) (numeric : stored.element.isNumeric)
    (free : ∀ failure, ¬job.Unforeseen dataset stored selection failure)
    : ∃ table, job.tableFrom dataset = .ok table ∧ table.rowCount ≤ selection.estimate := by
  have positive : 1 ≤ job.batchSize := job.batchSize_pos
  have apart : job.field ∉ selection.dimensions := fun own => free _ (.named own)
  have countable : job.batchSize ≤ Extraction.batchLimit :=
    Int.not_lt.mp fun large => free _ (.uncountable apart large)
  have untaken : ¬(selection.enumerate ≠ [] ∧ dataset.isPointsTaken) := fun blocked =>
    free _ (.taken apart countable blocked.1 blocked.2)
  have shown : ∀ cell ∈ selection.enumerate, ¬dataset.IsUnshown stored cell := by
    intro cell hm unshown
    have own : ¬dataset.isPointsTaken := fun taken => untaken ⟨List.ne_nil_of_mem hm, taken⟩
    exact free _ (.unshown apart countable own ⟨cell, hm, unshown⟩)
  obtain ⟨table, read⟩ :=
    sound.exists_readTable selected found numeric ⟨positive, countable⟩ untaken shown
  have extracted : job.tableFrom dataset = .ok table := by
    rw [tableFrom_of_select unlimited selected, if_neg apart, read]
  refine ⟨table, extracted, ?_⟩
  rw [tableFrom, Source.outcome_extract_of_select selected] at extracted
  exact Extraction.rowCount_le_estimate extracted

-----------------------------------------------------------------------------------------
-- Runs
-----------------------------------------------------------------------------------------

/-- The ends of a run that a summary foretells: the table is saved at the path of the summary and
has at most as many rows as estimated there, or it cannot be written and all files are as they
were.
-/
inductive Foretold (job : Job) (store : FileStore) (output : Option String) (summary : Summary)
    (after : FileStore)
    : Except Failure String → Prop
  | written {dataset : Dataset} {table : Table} {place : Place}
    (done : job.Done store output true dataset table place after)
    (bounded : table.rowCount ≤ summary.estimatedRows)
    : Foretold job store output summary after (.ok summary.output)
  | unwritten {table : Table} {failure : Failure}
    (failed : store.Unwritten table job.compression summary.output failure)
    (kept : after.files = store.files)
    : Foretold job store output summary after (.error failure)

/-- A job that may replace its target looks for nothing there. -/
theorem outcome_of_process
    (opened : (store.openDataset (Path.ofText job.input)).outcome = .ok dataset)
    (processed : job.process store output true = (after, run))
    : run.outcome
      = (do
          let table ← job.tableFrom dataset
          (store.saveTable table job.compression (job.target output) true).2.outcome) := by
  have writable : store.ensureWritable (job.outputName output) true = .ok (job.target output) := rfl
  have ends : (job.process store output true).2.outcome = _ := outcome_process
  rw [processed, outcome_prepare, writable, opened, ok_bind, ok_bind] at ends
  refine ends.trans ?_
  generalize job.tableFrom dataset = extracted
  cases extracted with
  | error failure => rfl
  | ok table => rfl

theorem files_of_process_eq_error
    (processed : job.process store output true = (after, run))
    (failed : run.outcome = .error failure)
    : after.files = store.files := by
  rcases process_cases processed with ⟨-, -, kept⟩ | ⟨answered, -⟩
  · exact kept
  · cases failed.symm.trans answered

/-- What is extracted is saved or fails to be written, unless the writer of table files refuses it
in another way.
-/
theorem foretold_of_tableFrom {table : Table}
    (opened : (store.openDataset (Path.ofText job.input)).outcome = .ok dataset)
    (aimed : summary.output = job.target output)
    (extracted : job.tableFrom dataset = .ok table)
    (bounded : table.rowCount ≤ summary.estimatedRows)
    (accepted
      : ∀ fault, store.Spurns table job.compression (job.target output) fault →
          fault.isOfSystemOrValue)
    (processed : job.process store output true = (after, run))
    : job.Foretold store output summary after run.outcome := by
  have ends := outcome_of_process opened processed
  rw [extracted, ok_bind] at ends
  rcases process_cases processed with ⟨failure, failed, kept⟩
    | ⟨answered, other, same, place, done⟩
  · have unwritten := FileStore.unwritten_of_saveTable (ends.symm.trans failed)
    rw [withTableEnding_target] at unwritten
    rw [failed]
    rcases unwritten with unwritten | ⟨fault, -, spurns, foreign⟩
    · exact .unwritten (aimed ▸ unwritten) kept
    · exact absurd (accepted fault spurns) foreign
  · cases opened.symm.trans done.opened
    cases extracted.symm.trans done.extracted
    rw [answered, ← aimed]
    exact .written done bounded

/-- A table that the writer of table files refuses in another way ends a run with the fault of that.
-/
theorem outcome_of_spurns {table : Table} {fault : Fault}
    (opened : (store.openDataset (Path.ofText job.input)).outcome = .ok dataset)
    (extracted : job.tableFrom dataset = .ok table)
    (spurns : store.Spurns table job.compression (job.target output) fault)
    (foreign : ¬fault.isOfSystemOrValue) (processed : job.process store output true = (after, run))
    : run.outcome = .error (.fault fault) := by
  have ends := outcome_of_process opened processed
  rw [extracted, ok_bind] at ends
  obtain ⟨made, parents, refused⟩ := spurns.refuses
  have writable : store.ensureWritable (job.target output) true = .ok (job.target output) :=
    congrArg Except.ok (withTableEnding_target job output)
  rw [ends, FileStore.saveTable, writable]
  simp [parents, refused, FileStore.reportTable, FileStore.writeFailure, foreign]

/-- A dataset in which a coordinate takes the name of the dimension of a read, and one in which the
coordinates of a dimension are too few. Tables are saved with one codec only.
-/
def cabinet : FileStore where
  folders := []
  files :=
    [
      (["taken.nc"], .dataset (Dataset.sample "points")),
      (["short.nc"], .dataset (Dataset.misnamed #[10.0, 20.0]))
    ]
  unsaved
    | .str "snappy", _ => none
    | _, _ => some .unusableCodec

theorem sound_cabinet : cabinet.Sound := by
  intro place dataset held
  have stored := FileStore.mem_of_content? held
  rw [cabinet, List.mem_pair] at stored
  rcases stored with taken | short
  · cases taken
    exact Dataset.sound_sample "points"
  · cases short
    exact Dataset.sound_misnamed _

theorem tableName_ne : "out.parquet" ≠ "" := by
  decide

/-- The extraction of a whole variable. -/
def wholeJob (input field : String) (batchSize : Int) (compression : Json) (input_ne : input ≠ "")
    (field_ne : field ≠ "") (batchSize_pos : 0 < batchSize)
    : Job where
  input
  field
  output := "out.parquet"
  filters := []
  maxRows := none
  batchSize
  compression
  input_ne
  field_ne
  output_ne := tableName_ne
  maxRows_pos := pos_of_unlimited
  batchSize_pos

theorem holds_taken : cabinet.Holds "taken.nc" (Dataset.sample "points") where
  near := by decide
  own := by decide
  fetched := by
    rw [FileStore.fetch, FileStore.place_eq_walk (by decide) (by decide)]
    rfl

theorem holds_short : cabinet.Holds "short.nc" (Dataset.misnamed #[10.0, 20.0]) where
  near := by decide
  own := by decide
  fetched := by
    rw [FileStore.fetch, FileStore.place_eq_walk (by decide) (by decide)]
    rfl

/-- A job that selects something from a file can be summarized. -/
theorem exists_summary_of_holds (job : Job) (output : Option String)
    (held : store.Holds job.input dataset)
    (selected : (dataset.source.select job.field job.filters).outcome = .ok selection)
    : ∃ summary, (job.summarize store output).outcome = .ok summary := by
  have checked : job.check store = .ok () := by
    rw [check, if_neg held.near, held.isFile]
    rfl
  obtain ⟨axes, -, located, -⟩ := Source.select_eq_ok_iff.mp selected
  exact ⟨_, summarize_eq_ok_iff.mpr
    ⟨checked, _, _, _, held.openDataset, located, selected, rfl⟩⟩

/-- A job on the store with a summary that foretells its run. -/
def EndsAsForetold (job : Job) : Prop :=
  ∃ summary,
    (job.summarize cabinet none).outcome = .ok summary
    ∧ job.Foretold cabinet none summary (job.process cabinet none true).1
        (job.process cabinet none true).2.outcome

/-- What is unforeseen ends a job that can be summarized. -/
theorem fails_of_holds (job : Job) (output : Option String)
    (held : store.Holds job.input dataset) (sound : dataset.Sound) (unlimited : job.maxRows = none)
    (selected : (dataset.source.select job.field job.filters).outcome = .ok selection)
    (found : dataset.lookup? job.field = some stored) (numeric : stored.element.isNumeric)
    (obstacle : job.Unforeseen dataset stored selection failure)
    : (∃ summary, (job.summarize store output).outcome = .ok summary)
      ∧ (job.process store output true).2.outcome = .error failure := by
  refine ⟨exists_summary_of_holds job output held selected, ?_⟩
  have ends : (job.process store output true).2.outcome = _ :=
    outcome_of_process (held.openDataset) rfl
  rwa [obstacle.tableFrom_eq sound unlimited selected found numeric] at ends

/-- So does a table that is refused when it is written. -/
theorem spurned_of_holds (job : Job) (output : Option String)
    (held : store.Holds job.input dataset)
    (selected : (dataset.source.select job.field job.filters).outcome = .ok selection)
    {table : Table} {fault : Fault} (extracted : job.tableFrom dataset = .ok table)
    (spurns : store.Spurns table job.compression (job.target output) fault)
    (foreign : ¬fault.isOfSystemOrValue)
    : (∃ summary, (job.summarize store output).outcome = .ok summary)
      ∧ (job.process store output true).2.outcome = .error (.fault fault) :=
  ⟨
    exists_summary_of_holds job output held selected,
    outcome_of_spurns held.openDataset extracted spurns foreign rfl
  ⟩

/-- A job on the store that can be summarized and ends with a failure. -/
def EndsUnforeseen (job : Job) (failure : Failure) : Prop :=
  (∃ summary, (job.summarize cabinet none).outcome = .ok summary)
  ∧ (job.process cabinet none true).2.outcome = .error failure

theorem spurns_cabinet (table : Table)
    : cabinet.Spurns table (.str "foo") "out.parquet" .unusableCodec := by
  have own : cabinet.tablePath "out.parquet" = Path.ofText "out.parquet" := by
    decide
  have leads : cabinet.place (Path.ofText "out.parquet") = .ok ["out.parquet"] := by
    rw [FileStore.place_eq_walk (by decide) (by decide)]
    rfl
  have vacant : cabinet.occupant? ["out.parquet"] = none := rfl
  have folder : cabinet.isFolderAt (Path.ofText "out.parquet").parent := by
    refine FileStore.isFolderAt_iff.mpr ?_
    rw [FileStore.find, FileStore.place_eq_walk (by decide) (by decide)]
    rfl
  have absent : ¬cabinet.isFolderAt (Path.ofText "out.parquet") := by
    rw [FileStore.isFolderAt_iff, FileStore.find, leads, ok_bind, vacant]
    rintro ⟨⟩
  have name : (Path.ofText "out.parquet").name = "out.parquet" := by
    decide
  refine ⟨cabinet, ["out.parquet"], ?_, FileStore.placeOfTable_eq_ok_iff.mpr ?_, rfl⟩
  · rw [FileStore.makeParents, if_neg (by decide), FileStore.makeFolders_of_isFolderAt folder]
  · rw [own]
    exact ⟨absent, folder, by simp [name],
      FileStore.placeToWrite_eq_ok_iff.mpr ⟨leads, Or.inr ⟨vacant, by decide⟩⟩⟩

end Job

end GridTable
