import GridTable.Proofs.CommandLine.Writing
import GridTable.Proofs.Job.Faults

/-! How jobs end that commands run: with the path of a table, or with an error of the program,
unless the job is faulty. A fault leaves the command without an exit code of its own, and so does a
line that cannot be shown.
-/

namespace GridTable.CommandLine

open Outcome

variable {host : Host} {store : FileStore} {job : Job} {output : Option String}
variable {options : WriteOptions}

/-- Whether a run of a job faults. A dry run only does if it cannot find out whether the input of
the job is there, or if its summary cannot be shown.
-/
def IsFaultyRun (host : Host) (store : FileStore) (job : Job) (output : Option String)
    (options : WriteOptions)
    : Prop :=
  if options.isDryRun then
    ¬Path.isRemote job.input ∧ store.IsHidden (Path.ofText job.input)
    ∨ ∃ summary fault,
        (job.summarize store output).outcome = .ok summary
        ∧ host.unshown summary.text = some fault
  else
    job.Faulty store output options.replace
    ∨ ∃ fault,
        (job.process store output options.replace).2.outcome = .ok (job.target output)
        ∧ host.unshown (job.target output) = some fault

theorem faults_show_singleton_iff {line : String}
    : Faults (host.show [line]) ↔ ∃ fault, host.unshown line = some fault := by
  cases refused : host.unshown line with
  | none => simp [Host.show, refused]
  | some fault => simp [Host.show, refused, raiseFault]

theorem faults_runJob_iff (sound : store.Sound) {found : Traced Job}
    (built : found.outcome = .ok job)
    : Faults ((runJob store found output options).2.outcome >>= host.show)
      ↔ IsFaultyRun host store job output options := by
  rw [IsFaultyRun]
  by_cases dry : options.isDryRun
  · have summary : Faults (job.summarize store output).outcome ↔ _ :=
      Job.faults_summarize_iff sound
    rw [if_pos dry, ← summary]
    have ends : (runJob store found output options).2.outcome >>= host.show
        = (do
            let summary ← (job.summarize store output).outcome
            host.show [summary.text]) := by
      simp [runJob, built, dry]
    rw [ends, faults_bind_iff]
    simp only [faults_show_singleton_iff, exists_and_left]
  · rw [if_neg dry, ← Job.faults_process_iff sound]
    have ends : (runJob store found output options).2.outcome >>= host.show
        = (do
            let target ← (job.process store output options.replace).2.outcome
            host.show [target]) := by
      simp [runJob, built, dry]
    rw [ends, faults_bind_iff]
    refine or_congr_right ?_
    simp only [faults_show_singleton_iff]
    constructor
    · rintro ⟨target, processed, fault, refused⟩
      rcases Job.process_cases (Prod.mk.eta (p := job.process store output options.replace)).symm
        with ⟨failure, failed, -⟩ | ⟨answered, -⟩
      · cases failed.symm.trans processed
      · cases answered.symm.trans processed
        exact ⟨fault, processed, refused⟩
    · rintro ⟨fault, processed, refused⟩
      exact ⟨_, processed, fault, refused⟩

theorem sound_shelf : shelf.Sound := by
  intro place dataset held
  have stored := FileStore.mem_of_content? held
  rw [shelf, List.mem_pair] at stored
  rcases stored with own | other
  · cases own
    exact Dataset.sound_sample "height"
  · cases other

/-- A dataset with a variable of texts, and one over a dimension of which not all indices have a
coordinate.
-/
def oddities : Dataset where
  fields :=
    [
      ⟨"word", [⟨"x", 2⟩], .text 1, .texts #["a", "1"], false, []⟩,
      ⟨"wide", [⟨"x", 2⟩], .float64, .numbers #[1.0, 2.0], false, []⟩,
      ⟨"x", [⟨"y", 1⟩], .float64, .numbers #[10.0], false, []⟩
    ]

/-- The dataset, and a file where a folder is needed for some target. -/
def attic : FileStore where
  folders := []
  files := [(["in.nc"], .dataset oddities), (["f"], .text "kept")]

/-- The extraction of a variable of the dataset. -/
def atticJob (field output : String) (field_ne : field ≠ "") (output_ne : output ≠ "") : Job :=
  { shelfJob with field, output, field_ne, output_ne }

theorem holds_attic : attic.Holds "in.nc" oddities where
  near := by decide
  own := by decide
  fetched := by
    rw [FileStore.fetch, FileStore.place_eq_walk (by decide) (by decide)]
    rfl

theorem ensureWritable_attic
    : attic.ensureWritable "out.parquet" false = .ok "out.parquet"
      ∧ attic.ensureWritable "f/out.parquet" false = .ok "f/out.parquet" := by
  have missing : attic.find (Path.ofText "out.parquet") = .error .fileMissing := by
    rw [FileStore.find, FileStore.place_eq_walk (by decide) (by decide)]
    rfl
  have blocked : attic.find (Path.ofText "f/out.parquet") = .error .notDirectory := by
    rw [FileStore.find, FileStore.place_eq_walk (by decide) (by decide)]
    rfl
  constructor
  · refine FileStore.ensureWritable_eq_ok_iff.mpr ⟨by decide, Or.inr (Or.inr ?_)⟩
    rw [FileStore.exists?, FileStore.lookup?, missing]
    rfl
  · refine FileStore.ensureWritable_eq_ok_iff.mpr ⟨by decide, Or.inr (Or.inr ?_)⟩
    rw [FileStore.exists?, FileStore.lookup?, blocked]
    rfl

theorem makeParents_attic : ∃ fault, (attic.makeParents "f/out.parquet").2 = .error fault := by
  have above : (Path.ofText "f/out.parquet").parent = ⟨"", ["f"]⟩ := by
    decide
  have refused : attic.makeFolder ⟨"", ["f"]⟩ = .error .fileExists := by
    rw [FileStore.makeFolder, FileStore.site, FileStore.checkPath_eq_ok (by decide) (by decide)]
    rfl
  have file : attic.checkFolder ⟨"", ["f"]⟩ .fileExists = .error .fileExists := by
    have found : attic.find ⟨"", ["f"]⟩ = .ok (.file (.text "kept")) := by
      rw [FileStore.find, FileStore.place_eq_walk (by decide) (by decide)]
      rfl
    rw [FileStore.checkFolder, FileStore.lookup?, found]
    rfl
  refine ⟨.fileExists, ?_⟩
  rw [FileStore.makeParents, if_neg (by decide), above]
  change (attic.makeFoldersUpTo ⟨"", ["f"]⟩ 2).2 = _
  rw [FileStore.makeFoldersUpTo, FileStore.ensureFolder, refused]
  simp only [file]

end GridTable.CommandLine
