import GridTable.Proofs.Extraction.Faults
import GridTable.Proofs.FileStore.Folders
import GridTable.Proofs.Job.Processing

/-! When the processing of a job faults: before anything is read, if it cannot be found out whether
its target is there; while its table is read; when the folders above the target are made; or if
the table is refused in a way that is not taken for an error of writing.
-/

namespace GridTable

open Outcome

-----------------------------------------------------------------------------------------
-- Stores
-----------------------------------------------------------------------------------------

namespace FileStore

variable {store : FileStore} {path : Path} {text : String} {replace : Bool}

/-- A store all of whose datasets can be opened. -/
def Sound (store : FileStore) : Prop :=
  ∀ place dataset, content? place store.files = some (.dataset dataset) → dataset.Sound

/-- A path of which it cannot be found out what it leads to: it is too long, or a name in it is, or
a folder on the way may not be searched.
-/
def IsHidden (store : FileStore) (path : Path) : Prop :=
  ∃ fault, store.find path = .error fault ∧ ¬fault.isAbsence

theorem Sound.of_datasetNamed (sound : store.Sound) {dataset : Dataset}
    (h : store.datasetNamed path = .ok dataset)
    : dataset.Sound := by
  rw [datasetNamed] at h
  split at h
  · next content found =>
      cases h
      obtain ⟨place, -, held, -⟩ := fetch_eq_ok_iff.mp found
      exact sound place _ (occupant?_eq_file_iff.mp held)
  · cases h
  · cases h

theorem openDataset_eq_ok_iff {dataset : Dataset}
    : (store.openDataset path).outcome = .ok dataset ↔ store.dataset path = .ok dataset := by
  rw [openDataset]
  cases store.dataset path with
  | error fault => simp
  | ok other => simp [pure]

theorem Sound.of_openDataset (sound : store.Sound) {dataset : Dataset}
    (h : (store.openDataset path).outcome = .ok dataset)
    : dataset.Sound := by
  have opened := openDataset_eq_ok_iff.mp h
  rw [FileStore.dataset] at opened
  split at opened
  · split at opened
    · exact sound.of_datasetNamed opened
    · cases opened
  · cases opened
  · split at opened
    · exact sound.of_datasetNamed opened
    · cases opened
  · cases opened

/-- A store in which an input is a file with a dataset that may be read. -/
structure Holds (store : FileStore) (input : String) (dataset : Dataset) : Prop where
  near : ¬Path.isRemote input
  own :
    (Path.ofText (Path.expandUser store.homes (Path.ofText input).text)).collapsed
    = Path.ofText input
  fetched : store.fetch (Path.ofText input) = .ok (.file (.dataset dataset))

theorem Holds.openDataset {input : String} {dataset : Dataset} (held : store.Holds input dataset)
    : (store.openDataset (Path.ofText input)).outcome = .ok dataset := by
  simp [openDataset_eq_ok_iff, FileStore.dataset, looksLikeDataset, datasetNamed, held.fetched,
    held.own]

theorem Holds.isFile {input : String} {dataset : Dataset} (held : store.Holds input dataset)
    : store.isFile (Path.ofText input) = .ok true := by
  obtain ⟨place, leads, found, -⟩ := fetch_eq_ok_iff.mp held.fetched
  rw [FileStore.isFile, lookup?, find_eq_ok_iff.mpr ⟨place, leads, found⟩]
  rfl

theorem not_faults_openDataset (store : FileStore) (path : Path)
    : ¬Faults (store.openDataset path).outcome := by
  rw [openDataset]
  split <;> simp

theorem exists_map_lookup?_eq_error_iff {β : Type} (change : Option Entry → β)
    : (∃ fault, (store.lookup? path).map change = .error fault) ↔ store.IsHidden path := by
  rw [lookup?, IsHidden]
  cases store.find path with
  | ok entry => simp [Except.map]
  | error fault => by_cases absent : fault.isAbsence <;> simp [absent, Except.map]

theorem exists?_eq_error_iff
    : (∃ fault, store.exists? path = .error fault) ↔ store.IsHidden path :=
  exists_map_lookup?_eq_error_iff Option.isSome

theorem isFile_eq_error_iff
    : (∃ fault, store.isFile path = .error fault) ↔ store.IsHidden path :=
  exists_map_lookup?_eq_error_iff _

/-- Only the look for what is at the target may fault, if nothing is to be replaced. -/
theorem faults_ensureWritable_iff
    : Faults (store.ensureWritable text replace)
      ↔ ¬replace
        ∧ ¬Path.isRemote (Path.withTableEnding text)
        ∧ store.IsHidden (Path.ofText (Path.withTableEnding text)) := by
  rw [← exists?_eq_error_iff, ← and_assoc, ← not_or, ensureWritable]
  by_cases known : replace ∨ Path.isRemote (Path.withTableEnding text)
  · simp [known]
  · rw [if_neg (by simpa using known), and_iff_right known]
    cases store.exists? (Path.ofText (Path.withTableEnding text)) with
    | error fault => simp
    | ok found => cases found <;> simp

theorem ensureWritable_withTableEnding
    : store.ensureWritable (Path.withTableEnding text) replace
      = store.ensureWritable text replace := by
  simp only [ensureWritable, Path.withTableEnding_withTableEnding]

/-- Saving a table faults with the look for what is at its target, or if the folders above that
cannot be made, or if the writer of table files refuses the table for another reason than the
system's or an unusable value.
-/
theorem faults_saveTable_iff {table : Table} {codec : Json}
    : Faults (store.saveTable table codec text replace).2.outcome
      ↔ Faults (store.ensureWritable text replace)
        ∨ ∃ target,
            store.ensureWritable text replace = .ok target
            ∧ ((∃ fault, (store.makeParents target).2 = .error fault)
              ∨ ∃ fault,
                  store.Spurns table codec target fault ∧ ¬fault.isOfSystemOrValue) := by
  have spurned {target : String}
      : (∃ fault, store.Spurns table codec target fault ∧ ¬fault.isOfSystemOrValue)
        ↔ ∃ fault, store.Refuses table codec target fault ∧ ¬fault.isOfSystemOrValue :=
    exists_congr fun fault => and_congr_left fun foreign =>
      ⟨Spurns.refuses, fun refuses => refuses.spurns foreign⟩
  simp only [spurned]
  rw [saveTable]
  cases store.ensureWritable text replace with
  | error failure => simp
  | ok target =>
      rcases parents : store.makeParents target with ⟨made, fault | ⟨⟩⟩
      · simp [parents, Refuses]
      · cases writes : made.writeTable table codec target with
        | ok written => simp [parents, Refuses, writes, reportTable]
        | error fault =>
            by_cases noticed : fault.isOfSystemOrValue <;>
              simp [parents, Refuses, writes, reportTable, writeFailure, noticed]

end FileStore

-----------------------------------------------------------------------------------------
-- Jobs
-----------------------------------------------------------------------------------------

namespace Job

variable {job : Job} {store : FileStore} {output : Option String} {replace : Bool}
variable {dataset : Dataset}

/-- A variable that a job may read, although reading what is selected of it faults. -/
structure Stuck (job : Job) (dataset : Dataset) (selection : Selection) (stored : Variable)
    : Prop where
  selected : (dataset.source.select job.field job.filters).outcome = .ok selection
  found : dataset.lookup? job.field = some stored
  unnamed : job.field ∉ selection.dimensions
  allowed : Extraction.checkRows selection.estimate (job.maxRows.map RowLimit.ofInt) = .ok ()
  unread :
    Extraction.batchLimit < job.batchSize
    ∨ ¬dataset.isPointsTaken
      ∧ ∃ cell ∈ selection.enumerate,
          stored.IsUnreadable cell ∨ dataset.IsUnshown stored cell

theorem faults_tableFrom_iff (sound : dataset.Sound)
    : Faults (job.tableFrom dataset)
      ↔ ∃ selection stored, job.Stuck dataset selection stored := by
  have positive : 1 ≤ job.batchSize := job.batchSize_pos
  rw [tableFrom, Source.extract, Traced.outcome_bind, faults_bind_iff,
    or_iff_right (sound.not_faults_select job.field job.filters)]
  simp only [Extraction.faults_extract_iff]
  refine exists_congr fun selection => ?_
  constructor
  · rintro ⟨selected, -, unnamed, allowed, faulty⟩
    obtain ⟨stored, found, -⟩ := sound.inGrid_of_select selected
    have unread := (sound.faults_readTable_iff selected found positive).mp faulty
    exact ⟨stored, selected, found, unnamed, allowed, unread⟩
  · rintro ⟨stored, stuck⟩
    obtain ⟨other, found, supported, dimensions, -⟩ := sound.inGrid_of_select stuck.selected
    have ranked : checkSupportedRank job.field selection.dimensions.length = .ok () := by
      rw [dimensions, List.length_map]
      exact supported
    have reads := sound.faults_readTable_iff stuck.selected stuck.found positive
    exact ⟨stuck.selected, ranked, stuck.unnamed, stuck.allowed, reads.mpr stuck.unread⟩

/-- What it means for a job to be faulty: whether its target is there cannot be found out, or its
table cannot be read, or the folders above its target cannot be made, or its table is refused
otherwise than by the system and for an unusable value.
-/
inductive Faulty (job : Job) (store : FileStore) (output : Option String) (replace : Bool) : Prop
  | unseen
      (keeps : ¬replace) (near : ¬Path.isRemote (job.target output))
      (hidden : store.IsHidden (Path.ofText (job.target output)))
  | stuck {dataset : Dataset} {selection : Selection} {stored : Variable}
      (writable : store.ensureWritable (job.outputName output) replace = .ok (job.target output))
      (opened : (store.openDataset (Path.ofText job.input)).outcome = .ok dataset)
      (unread : job.Stuck dataset selection stored)
  | homeless {dataset : Dataset} {table : Table} {fault : Fault}
      (writable : store.ensureWritable (job.outputName output) replace = .ok (job.target output))
      (opened : (store.openDataset (Path.ofText job.input)).outcome = .ok dataset)
      (extracted : job.tableFrom dataset = .ok table)
      (refused : (store.makeParents (job.target output)).2 = .error fault)
  | refused {dataset : Dataset} {table : Table} {fault : Fault}
      (writable : store.ensureWritable (job.outputName output) replace = .ok (job.target output))
      (opened : (store.openDataset (Path.ofText job.input)).outcome = .ok dataset)
      (extracted : job.tableFrom dataset = .ok table)
      (refused : store.Spurns table job.compression (job.target output) fault)
      (foreign : ¬fault.isOfSystemOrValue)

theorem faults_prepare_iff
    : Faults (job.prepare store output replace).outcome
      ↔ Faults (store.ensureWritable (job.outputName output) replace)
        ∨ ∃ path,
            store.ensureWritable (job.outputName output) replace = .ok path
            ∧ ∃ dataset,
                (store.openDataset (Path.ofText job.input)).outcome = .ok dataset
                ∧ Faults (job.tableFrom dataset) := by
  have opens := store.not_faults_openDataset (Path.ofText job.input)
  rw [outcome_prepare, faults_bind_iff]
  refine or_congr_right (exists_congr fun path => and_congr_right fun _ => ?_)
  rw [faults_bind_iff, or_iff_right opens]
  simp

theorem outcome_process
    : (job.process store output replace).2.outcome
      = (do
          let (target, table) ← (job.prepare store output replace).outcome
          (store.saveTable table job.compression target replace).2.outcome) := by
  cases prepared : (job.prepare store output replace).outcome with
  | error failure => simp [process, prepared]
  | ok answer =>
      simp only [process, prepared, Traced.outcome_bind, Outcome.ok_bind, Traced.outcome_info]
      exact bind_pure _

/-- The processing of a job faults just if the job is faulty. -/
theorem faults_process_iff (sound : store.Sound)
    : Faults (job.process store output replace).2.outcome ↔ job.Faulty store output replace := by
  rw [outcome_process, faults_bind_iff, faults_prepare_iff]
  constructor
  · rintro ((unseen | ⟨path, writable, dataset, opened, faulty⟩)
      | ⟨⟨path, table⟩, prepared, late⟩)
    · obtain ⟨keeps, near, hidden⟩ := FileStore.faults_ensureWritable_iff.mp unseen
      exact .unseen keeps near hidden
    · obtain ⟨rfl, -⟩ := FileStore.ensureWritable_eq_ok_iff.mp writable
      have sound := sound.of_openDataset opened
      obtain ⟨selection, stored, stuck⟩ := (faults_tableFrom_iff sound).mp faulty
      exact .stuck writable opened stuck
    · obtain ⟨writable, dataset, opened, extracted⟩ := prepare_eq_ok_iff.mp prepared
      obtain ⟨rfl, -⟩ := FileStore.ensureWritable_eq_ok_iff.mp writable
      rw [FileStore.faults_saveTable_iff, FileStore.ensureWritable_withTableEnding, writable]
        at late
      rcases late with again | ⟨target, same, ⟨fault, refused⟩ | ⟨fault, refused, foreign⟩⟩
      · exact absurd again (not_faults_ok _)
      · cases same
        exact .homeless writable opened extracted refused
      · cases same
        exact .refused writable opened extracted refused foreign
  · have saving {dataset : Dataset} {table : Table}
        (writable : store.ensureWritable (job.outputName output) replace = .ok (job.target output))
        (opened : (store.openDataset (Path.ofText job.input)).outcome = .ok dataset)
        (extracted : job.tableFrom dataset = .ok table)
        (late
          : (∃ fault, (store.makeParents (job.target output)).2 = .error fault)
            ∨ ∃ fault,
                store.Spurns table job.compression (job.target output) fault
                ∧ ¬fault.isOfSystemOrValue)
        : ∃ answer,
            (job.prepare store output replace).outcome = .ok answer
            ∧ Faults (store.saveTable answer.2 job.compression answer.1 replace).2.outcome := by
      refine ⟨_, prepare_eq_ok_iff.mpr ⟨writable, _, opened, extracted⟩, ?_⟩
      refine FileStore.faults_saveTable_iff.mpr (Or.inr ⟨_, ?_, late⟩)
      rw [target, FileStore.ensureWritable_withTableEnding]
      exact writable
    rintro (⟨keeps, near, hidden⟩ | ⟨writable, opened, stuck⟩
      | ⟨writable, opened, extracted, refused⟩
      | ⟨writable, opened, extracted, refused, foreign⟩)
    · have unseen := FileStore.faults_ensureWritable_iff.mpr ⟨keeps, near, hidden⟩
      exact Or.inl (Or.inl unseen)
    · have sound := sound.of_openDataset opened
      have faulty := (faults_tableFrom_iff sound).mpr ⟨_, _, stuck⟩
      exact Or.inl (Or.inr ⟨_, writable, _, opened, faulty⟩)
    · exact Or.inr (saving writable opened extracted (Or.inl ⟨_, refused⟩))
    · exact Or.inr (saving writable opened extracted (Or.inr ⟨_, refused, foreign⟩))

/-- A job that does not fault ends as promised: with the path of its table, or with an error of
the program.
-/
theorem ends_properly_iff_not_faults
    : (job.process store output replace).2.outcome = .ok (job.target output)
        ∨ (∃ reason, (job.process store output replace).2.outcome = .error (.error reason))
      ↔ ¬Faults (job.process store output replace).2.outcome := by
  rcases processing : job.process store output replace with ⟨after, run⟩
  rcases process_cases processing with ⟨failure, failed, -⟩ | ⟨answered, -⟩
  · cases failure with
    | error reason => simp [failed]
    | fault cause => simp [failed]
  · simp [answered]

-----------------------------------------------------------------------------------------
-- Summaries
-----------------------------------------------------------------------------------------

theorem faults_check_iff
    : Faults (job.check store)
      ↔ ¬Path.isRemote job.input ∧ store.IsHidden (Path.ofText job.input) := by
  rw [← FileStore.isFile_eq_error_iff, check]
  by_cases far : Path.isRemote job.input
  · simp [far]
  · rw [if_neg far, and_iff_right far]
    cases store.isFile (Path.ofText job.input) with
    | error fault => simp
    | ok found => cases found <;> simp [misconfigured]

/-- Summaries read no cell: they only fault with the look for the input. -/
theorem faults_summarize_iff (sound : store.Sound)
    : Faults (job.summarize store output).outcome
      ↔ ¬Path.isRemote job.input ∧ store.IsHidden (Path.ofText job.input) := by
  have described {dataset : Dataset}
      (opened : (store.openDataset (Path.ofText job.input)).outcome = .ok dataset)
      : ¬Faults (dataset.axesOf job.field)
        ∧ ¬Faults (dataset.source.estimateRows job.field job.filters).outcome := by
    have selects := (sound.of_openDataset opened).not_faults_select job.field job.filters
    exact ⟨dataset.not_faults_axesOf job.field, by simpa [Source.estimateRows] using selects⟩
  rw [summarize, ← faults_check_iff]
  simp only [Traced.outcome_bind, Traced.outcome_liftM, faults_bind_iff]
  constructor
  · rintro (unseen | ⟨-, -, opening
      | ⟨dataset, opened, ranked | ⟨axes, -, counted | ⟨rows, -, shown⟩⟩⟩⟩)
    · exact unseen
    · exact absurd opening (store.not_faults_openDataset _)
    · exact absurd ranked (described opened).1
    · exact absurd counted (described opened).2
    · exact absurd shown (not_faults_pure _)
  · exact Or.inl

end Job

end GridTable
