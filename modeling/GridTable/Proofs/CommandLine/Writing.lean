import GridTable.CommandLine.Running
import GridTable.Proofs.Extraction.FullScan
import GridTable.Proofs.Job.Faults

/-! What command lines do to files. Only a conversion or an extraction that is no dry run and ends
well, or would if the path of its table could be shown, changes a file: that of its target. Over a
session of such commands no file is replaced that was there before, as long as nothing is asked to
be replaced and targets are plain local paths.
-/

namespace GridTable.CommandLine

-----------------------------------------------------------------------------------------
-- Requests
-----------------------------------------------------------------------------------------

/-- A request to write the table of a job. -/
structure Request where
  /-- The filters that are given along with the command. -/
  filters : Except Failure (List Filter)
  job : Except Failure Job
  output : Option String
  replace : Bool

/-- What a command asks to be written; nothing on a dry run. -/
def Command.request? (host : Host) (store : FileStore) (environment : Environment)
    : Command → Option Request
  | .convert config output options =>
      if options.isDryRun then none
      else
        some
          {
            filters :=
              Job.filters
              <$> (Job.load host.room store environment (Path.ofText config)).outcome
            job := (convertedJob host.room store environment config options).outcome
            output
            replace := options.replace
          }
  | .extract input field output filters options =>
      if options.isDryRun then none
      else
        some
          {
            filters := readFilters filters
            job := (spelledJob environment input field output filters options).outcome
            output := none
            replace := options.replace
          }
  | .validate .. | .info .. => none

/-- What a command line asks to be written. -/
def requestOf (host : Host) (store : FileStore) (environment : Environment)
    (arguments : List String)
    : Option Request :=
  match Invocation.ofArguments arguments with
  | .ok invocation => invocation.command.request? host store environment
  | .error _ => none

/-- Whether a job has the filters that are given for it and those that the environment adds. -/
def Request.Merged (request : Request) (environment : Environment) (job : Job) : Prop :=
  ∃ explicit,
    request.filters = .ok explicit
    ∧ (Filter.merge explicit environment).outcome = .ok job.filters

/-- What it means for a request to be met: the table of its job is saved at its target. -/
def Request.Met (request : Request) (store : FileStore) (environment : Environment)
    (after : FileStore)
    : Prop :=
  ∃ job dataset table place,
    request.job = .ok job
    ∧ request.Merged environment job
    ∧ job.Done store request.output request.replace dataset table place after

/-- Whether the console does not take the path of the table of a request. -/
def Request.IsUnshown (request : Request) (host : Host) : Prop :=
  ∃ job fault, request.job = .ok job ∧ host.unshown (job.target request.output) = some fault

variable {host : Host} {store : FileStore} {environment : Environment} {arguments : List String}

theorem filters_of_withMaxRows {job limited : Job} {limit : Int}
    (h : job.withMaxRows limit = .ok limited)
    : limited.filters = job.filters := by
  obtain ⟨rows, -, h⟩ := Outcome.bind_eq_ok_iff.mp h
  cases Outcome.pure_eq_ok_iff.mp h
  rfl

theorem filters_of_build {input field output : Json} {filters : List Filter}
    {maxRows : Option Int} {batchSize : Int} {compression : Json} {job : Job}
    (h : Job.build input field output filters maxRows batchSize compression = .ok job)
    : job.filters = filters := by
  obtain ⟨inputText, -, h⟩ := Outcome.bind_eq_ok_iff.mp h
  obtain ⟨fieldText, -, h⟩ := Outcome.bind_eq_ok_iff.mp h
  obtain ⟨outputText, -, h⟩ := Outcome.bind_eq_ok_iff.mp h
  obtain ⟨rows, -, h⟩ := Outcome.bind_eq_ok_iff.mp h
  obtain ⟨size, -, h⟩ := Outcome.bind_eq_ok_iff.mp h
  cases Outcome.pure_eq_ok_iff.mp h
  rfl

theorem merged_of_convertedJob {config : String} {options : WriteOptions} {job : Job}
    (h : (convertedJob host.room store environment config options).outcome = .ok job)
    : ∃ own,
        (Job.load host.room store environment (Path.ofText config)).outcome = .ok own
        ∧ (Filter.merge own.filters environment).outcome = .ok job.filters := by
  rw [convertedJob, Traced.outcome_bind] at h
  obtain ⟨loaded, hload, h⟩ := Outcome.bind_eq_ok_iff.mp h
  simp only [loadJob, Traced.outcome_bind, Outcome.bind_eq_ok_iff] at hload
  obtain ⟨own, hown, filters, merged, hload⟩ := hload
  cases Outcome.pure_eq_ok_iff.mp hload
  refine ⟨own, hown, ?_⟩
  split at h
  · cases Outcome.pure_eq_ok_iff.mp h
    exact merged
  · cases h
  · rw [filters_of_withMaxRows h]
    exact merged

theorem merged_of_spelledJob {input field output : String}
    {texts : List (Filter.Kind × Option String)} {options : WriteOptions} {job : Job}
    (h : (spelledJob environment input field output texts options).outcome = .ok job)
    : ∃ explicit,
        readFilters texts = .ok explicit
        ∧ (Filter.merge explicit environment).outcome = .ok job.filters := by
  simp only [spelledJob, spelledFilters, bind_assoc, Traced.outcome_bind, Traced.outcome_liftM,
    Outcome.bind_eq_ok_iff] at h
  obtain ⟨explicit, read, filters, merged, h⟩ := h
  refine ⟨explicit, read, ?_⟩
  have built : ∃ rows,
      Job.build (.str input) (.str field) (.str output) filters rows defaultBatchSize
        Job.defaultCompression = .ok job := by
    cases limited : options.maxRows with
    | none =>
        simp only [limited, Traced.outcome_bind, Outcome.bind_eq_ok_iff] at h
        obtain ⟨rows, -, built, hbuilt, h⟩ := h
        cases Outcome.pure_eq_ok_iff.mp h
        exact ⟨rows, hbuilt⟩
    | some limit =>
        simp only [limited, Traced.outcome_bind, Outcome.bind_eq_ok_iff] at h
        obtain ⟨rows, -, built, hbuilt, h⟩ := h
        split at h
        · cases h
        · cases Outcome.pure_eq_ok_iff.mp h
          exact ⟨rows, hbuilt⟩
  obtain ⟨rows, built⟩ := built
  rw [filters_of_build built]
  exact merged

theorem merged_of_request? {command : Command} {request : Request}
    (asked : command.request? host store environment = some request) {job : Job}
    (h : request.job = .ok job)
    : request.Merged environment job := by
  cases command with
  | convert config output options =>
      rw [Command.request?] at asked
      split at asked
      · cases asked
      · cases asked
        obtain ⟨own, loaded, merged⟩ := merged_of_convertedJob h
        exact ⟨own.filters, by simp [loaded], merged⟩
  | extract input field output filters options =>
      rw [Command.request?] at asked
      split at asked
      · cases asked
      · cases asked
        exact merged_of_spelledJob h
  | validate config isDetailed => cases asked
  | info input field asJson => cases asked

-----------------------------------------------------------------------------------------
-- Single runs
-----------------------------------------------------------------------------------------

theorem runJob_of_isDryRun {found : Traced Job} {output : Option String}
    {options : WriteOptions} (dry : options.isDryRun)
    : (runJob store found output options).1 = store := by
  rw [runJob]
  split
  · rfl
  · rw [if_pos dry]

/-- A job that is run fails with all files as they were, or its table is saved. -/
theorem runJob_cases {found : Traced Job} {output : Option String} {options : WriteOptions}
    (wet : ¬options.isDryRun) {after : FileStore} {run : Traced (List String)}
    (h : runJob store found output options = (after, run))
    : (∃ failure, run.outcome = .error failure ∧ after.files = store.files)
      ∨ ∃ job dataset table place,
          run.outcome = .ok [job.target output]
          ∧ found.outcome = .ok job
          ∧ job.Done store output options.replace dataset table place after := by
  cases hfound : found.outcome with
  | error failure =>
      simp only [runJob, hfound, Prod.mk.injEq] at h
      obtain ⟨rfl, rfl⟩ := h
      exact Or.inl ⟨failure, rfl, rfl⟩
  | ok job =>
      rcases processing : job.process store output options.replace with ⟨written, processed⟩
      simp only [runJob, hfound, if_neg wet, processing, Prod.mk.injEq] at h
      obtain ⟨rfl, rfl⟩ := h
      rcases Job.process_cases processing with
        ⟨failure, failed, files⟩ | ⟨answered, dataset, table, place, done⟩
      · exact Or.inl ⟨failure, by simp [hfound, failed], files⟩
      · exact Or.inr ⟨job, dataset, table, place, by simp [hfound, answered, pure], rfl, done⟩

/-- A command that asks for nothing to be written leaves the store as it is. -/
theorem run_of_request?_none {command : Command}
    (silent : command.request? host store environment = none)
    : (command.run host store environment).1 = store := by
  change (command.perform host store environment).1 = store
  cases command with
  | convert config output options =>
      by_cases dry : options.isDryRun
      · exact runJob_of_isDryRun dry
      · simp [Command.request?, dry] at silent
  | extract input field output filters options =>
      by_cases dry : options.isDryRun
      · exact runJob_of_isDryRun dry
      · simp [Command.request?, dry] at silent
  | validate config isDetailed => rfl
  | info input field asJson => rfl

theorem Host.show_singleton (host : Host) (line : String)
    : host.show [line] = .ok [line]
      ∨ ∃ fault, host.unshown line = some fault ∧ host.show [line] = .error (.fault fault) := by
  cases refused : host.unshown line with
  | none => exact Or.inl (by simp [Host.show, refused, pure, Except.pure])
  | some fault => exact Or.inr ⟨fault, rfl, by simp [Host.show, refused, raiseFault]⟩

/-- How a command ends that asks for a table to be written: it fails with all files as they were, or
meets the request, and then its only failure may be to show the path of the table.
-/
inductive Command.Ended (host : Host) (store : FileStore) (environment : Environment)
    (request : Request) (after : FileStore)
    : Except Failure (List String) → Prop
  | failed {failure : Failure} (files : after.files = store.files)
    : Command.Ended host store environment request after (.error failure)
  | shown {lines : List String} (met : request.Met store environment after)
    : Command.Ended host store environment request after (.ok lines)
  | unshown {failure : Failure} (met : request.Met store environment after)
    (silenced : request.IsUnshown host)
    : Command.Ended host store environment request after (.error failure)

theorem runJob_ended {found : Traced Job} {output : Option String} {options : WriteOptions}
    (wet : ¬options.isDryRun) {request : Request}
    (own : request.job = found.outcome ∧ request.output = output
      ∧ request.replace = options.replace)
    (merged : ∀ job, request.job = .ok job → request.Merged environment job)
    : Command.Ended host store environment request (runJob store found output options).1
        ((runJob store found output options).2.outcome >>= host.show) := by
  obtain ⟨hjob, rfl, hreplace⟩ := own
  rcases running : runJob store found request.output options with ⟨after, run⟩
  rcases runJob_cases wet running with ⟨failure, failed, files⟩
    | ⟨job, dataset, table, place, answered, hfound, done⟩
  · rw [failed]
    exact .failed files
  · have asked := hjob.trans hfound
    have met : request.Met store environment after :=
      ⟨job, dataset, table, place, asked, merged job asked, hreplace ▸ done⟩
    rw [answered, Outcome.ok_bind]
    rcases host.show_singleton (job.target request.output) with shown | ⟨fault, refused, silent⟩
    · exact shown ▸ .shown met
    · exact silent ▸ .unshown met ⟨job, fault, asked, refused⟩

theorem outcome_run (command : Command)
    : (command.run host store environment).2.outcome
      = (command.perform host store environment).2.outcome >>= host.show := by
  simp [Command.run]

/-- A command that asks for a table to be written fails with all files as they were, or meets
the request.
-/
theorem run_of_request?_some {command : Command} {request : Request}
    (asked : command.request? host store environment = some request)
    : Command.Ended host store environment request (command.run host store environment).1
        (command.run host store environment).2.outcome := by
  have merged (job : Job) (h : request.job = .ok job) : request.Merged environment job :=
    merged_of_request? asked h
  rw [outcome_run]
  cases command with
  | convert config output options =>
      rw [Command.request?] at asked
      split at asked
      · cases asked
      · next wet =>
          cases asked
          exact runJob_ended wet ⟨rfl, rfl, rfl⟩ merged
  | extract input field output filters options =>
      rw [Command.request?] at asked
      split at asked
      · cases asked
      · next wet =>
          cases asked
          exact runJob_ended wet ⟨rfl, rfl, rfl⟩ merged
  | validate config isDetailed => cases asked
  | info input field asJson => cases asked

theorem run_of_requestOf_none (silent : requestOf host store environment arguments = none)
    : (run host store environment arguments).1 = store := by
  rw [requestOf] at silent
  rw [run]
  split
  · rfl
  · next invocation parsed =>
      rw [parsed] at silent
      split
      · rfl
      · exact run_of_request?_none silent

theorem run_of_requestOf_some {request : Request}
    (asked : requestOf host store environment arguments = some request)
    : ((run host store environment arguments).2.exitCode ≠ 0
        ∧ (run host store environment arguments).1.files = store.files)
      ∨ request.Met store environment (run host store environment arguments).1
        ∧ ((run host store environment arguments).2.exitCode = 0 ∨ request.IsUnshown host) := by
  rw [requestOf] at asked
  rw [run]
  split
  · next reason refused => simp [refused] at asked
  · next invocation parsed =>
      rw [parsed] at asked
      split
      · exact Or.inl ⟨Nat.one_ne_zero, rfl⟩
      · next level shown =>
          have ended := run_of_request?_some asked
          generalize outcome : (invocation.command.run host store environment).2.outcome = ends
            at ended
          cases ended with
          | failed files =>
              exact Or.inl ⟨by simp [Reply.exitCode, outcome, Except.isOk, Except.toBool], files⟩
          | shown met =>
              refine Or.inr ⟨met, Or.inl ?_⟩
              simp [Reply.exitCode, outcome, Except.isOk, Except.toBool]
          | unshown met silenced => exact Or.inr ⟨met, Or.inr silenced⟩

-----------------------------------------------------------------------------------------
-- Sessions
-----------------------------------------------------------------------------------------

/-- A command line that does not ask to replace a file, and whose target, if it comes to a job at
all, is a local file with a plain path.
-/
def IsCareful (host : Host) (store : FileStore) (environment : Environment)
    (arguments : List String)
    : Prop :=
  ∀ request, requestOf host store environment arguments = some request →
    ∀ job, request.job = .ok job →
      ¬request.replace
      ∧ ¬Path.isRemote (job.target request.output)
      ∧ store.IsPlain (job.target request.output)

/-- The store after command lines that are run one after the other. -/
def runAll (host : Host) (store : FileStore) : List (Environment × List String) → FileStore
  | [] => store
  | (environment, arguments) :: rest =>
      runAll host (run host store environment arguments).1 rest

/-- A session in which each command line is careful when its turn comes. -/
def AreCareful (host : Host) (store : FileStore) : List (Environment × List String) → Prop
  | [] => True
  | (environment, arguments) :: rest =>
      IsCareful host store environment arguments
      ∧ AreCareful host (run host store environment arguments).1 rest

/-- A careful command line changes no file that is there. -/
theorem IsCareful.content?_run (careful : IsCareful host store environment arguments)
    {place : Place} {content : Content}
    (held : FileStore.content? place store.files = some content)
    : FileStore.content? place (run host store environment arguments).1.files = some content := by
  cases asked : requestOf host store environment arguments with
  | none => rwa [run_of_requestOf_none asked]
  | some request =>
      rcases run_of_requestOf_some asked with ⟨-, files⟩ | ⟨met, -⟩
      · rwa [files]
      · obtain ⟨job, dataset, table, target, hjob, -, done⟩ := met
        obtain ⟨keeps, near, plain⟩ := careful request asked job hjob
        have free := done.saved.fresh keeps near plain
        have apart : place ≠ target := by
          rintro rfl
          cases held.symm.trans free
        rw [done.saved.others place apart, held]

/-- A careful session changes no file that is there, by induction on its command lines. -/
theorem content?_runAll {session : List (Environment × List String)}
    (careful : AreCareful host store session) {place : Place} {content : Content}
    (held : FileStore.content? place store.files = some content)
    : FileStore.content? place (runAll host store session).files = some content := by
  induction session generalizing store with
  | nil => exact held
  | cons step rest ih => exact ih careful.2 (careful.1.content?_run held)

/-- Command lines damage no file. One that asks for nothing to be written leaves the store as it
is; one that does not end well leaves all files as they are, unless it met its request and only
could not show the path of the table; one that asks for a table and ends well saves it at its target
and changes no other file. Over a session no file is changed that was there at its start, as long as
nothing is to be replaced and targets are plain local paths.
-/
theorem files_change_by_met_requests (host : Host) (store : FileStore)
    (environment : Environment) (arguments : List String)
    (session : List (Environment × List String))
    : (requestOf host store environment arguments = none
        → (run host store environment arguments).1 = store)
      ∧ ((run host store environment arguments).2.exitCode ≠ 0
        → (run host store environment arguments).1.files = store.files
          ∨ ∃ request,
              requestOf host store environment arguments = some request
              ∧ request.Met store environment (run host store environment arguments).1
              ∧ request.IsUnshown host)
      ∧ (∀ request,
          requestOf host store environment arguments = some request
          → (run host store environment arguments).2.exitCode = 0
          → request.Met store environment (run host store environment arguments).1)
      ∧ (AreCareful host store session
        → ∀ place content,
            FileStore.content? place store.files = some content
            → FileStore.content? place (runAll host store session).files = some content) := by
  refine ⟨run_of_requestOf_none, fun failed => ?_, fun request asked ended => ?_, ?_⟩
  · cases asked : requestOf host store environment arguments with
    | none => exact Or.inl (by rw [run_of_requestOf_none asked])
    | some request =>
        rcases run_of_requestOf_some asked with ⟨-, files⟩ | ⟨met, ended | silenced⟩
        · exact Or.inl files
        · exact absurd ended failed
        · exact Or.inr ⟨request, rfl, met, silenced⟩
  · rcases run_of_requestOf_some asked with ⟨failed, -⟩ | ⟨met, -⟩
    · exact absurd ended failed
    · exact met
  · exact fun careful place content held => content?_runAll careful held

-----------------------------------------------------------------------------------------
-- A store with a dataset and a file
-----------------------------------------------------------------------------------------

/-- A host with a console that takes all lines, or none. -/
def consoleOf (takes : Bool) : Host where
  room := ⟨9, 9, 9⟩
  levels := 9
  unshown _ := if takes then none else some .badValue

/-- A dataset, and a file where a table might go. -/
def shelf : FileStore where
  folders := []
  files := [(["in.nc"], .dataset (Dataset.sample "height")), (["x.parquet"], .text "kept")]

/-- The extraction of the sample to a path. -/
def shelving (output : String) : List String :=
  ["extract", "in.nc", "-v", "v", "-o", output]

/-- Another file beside the one that is there leaves that as it is. -/
theorem files_change_by_met_requests_shelf
    : FileStore.content? ["x.parquet"]
        (runAll (consoleOf true) shelf [([], shelving "y.parquet")]).files
      = some (.text "kept") := by
  obtain ⟨-, -, -, kept⟩ := files_change_by_met_requests (consoleOf true) shelf []
    (shelving "y.parquet") [([], shelving "y.parquet")]
  refine kept ⟨fun request asked job found => ?_, trivial⟩ _ _ rfl
  cases asked
  cases found
  exact ⟨by decide, by decide, ⟨by decide, Or.inl (by decide)⟩⟩

/-- The path steps back out of a folder that is not there. -/
def steppingBack : String :=
  "new/../x.parquet"

theorem exists?_steppingBack : shelf.exists? (Path.ofText steppingBack) = .ok false := by
  have missing : shelf.find (Path.ofText steppingBack) = .error .fileMissing := by
    rw [FileStore.find, FileStore.place_eq_walk (by decide) (by decide)]
    rfl
  rw [FileStore.exists?, FileStore.lookup?, missing]
  rfl

/-- The store with the folder of the path. -/
def widerShelf : FileStore :=
  shelf.withFolder ["new"]

theorem makeParents_steppingBack : shelf.makeParents steppingBack = (widerShelf, .ok ()) := by
  have missing : shelf.makeFolder ⟨"", ["new", ".."]⟩ = .error .fileMissing := by
    rw [FileStore.makeFolder, FileStore.site, FileStore.checkPath_eq_ok (by decide) (by decide)]
    rfl
  have made : shelf.makeFolder ⟨"", ["new"]⟩ = .ok widerShelf := by
    rw [FileStore.makeFolder, FileStore.site, FileStore.checkPath_eq_ok (by decide) (by decide)]
    rfl
  have there : widerShelf.isFolderAt ⟨"", ["new", ".."]⟩ := by
    refine FileStore.isFolderAt_iff.mpr ?_
    rw [FileStore.find, FileStore.place_eq_walk (by decide) (by decide)]
    rfl
  have above : shelf.makeFoldersUpTo ⟨"", ["new"]⟩ 2 = (widerShelf, .ok ()) := by
    rw [FileStore.makeFoldersUpTo, FileStore.ensureFolder, made]
  have parent : (Path.ofText steppingBack).parent = ⟨"", ["new", ".."]⟩ := by
    decide
  have next : (⟨"", ["new", ".."]⟩ : Path).parent = ⟨"", ["new"]⟩ := rfl
  rw [FileStore.makeParents, if_neg (by decide), parent]
  change shelf.makeFoldersUpTo ⟨"", ["new", ".."]⟩ 3 = _
  rw [FileStore.makeFoldersUpTo, FileStore.ensureFolder, missing]
  simp only [next, above, FileStore.ensureFolder_of_isFolderAt there]

theorem writeTable_steppingBack (table : Table) (codec : Json)
    : widerShelf.writeTable table codec steppingBack
      = .ok (widerShelf.put ["x.parquet"] (.table table)) := by
  have own : widerShelf.tablePath steppingBack = Path.ofText steppingBack := by
    decide
  have leads : widerShelf.place (Path.ofText steppingBack) = .ok ["x.parquet"] := by
    rw [FileStore.place_eq_walk (by decide) (by decide)]
    rfl
  have held : widerShelf.occupant? ["x.parquet"] = some (.file (.text "kept")) := rfl
  have folder : widerShelf.isFolderAt (Path.ofText steppingBack).parent := by
    refine FileStore.isFolderAt_iff.mpr ?_
    rw [FileStore.find, FileStore.place_eq_walk (by decide) (by decide)]
    rfl
  have other : ¬widerShelf.isFolderAt (Path.ofText steppingBack) := by
    rw [FileStore.isFolderAt_iff, FileStore.find, leads, Outcome.ok_bind, held]
    rintro ⟨⟩
  have name : (Path.ofText steppingBack).name = "x.parquet" := by
    decide
  refine FileStore.writeTable_eq_ok_iff.mpr ⟨rfl, _, ?_, rfl⟩
  rw [FileStore.placeOfTable_eq_ok_iff, own]
  exact ⟨other, folder, by simp [name],
    FileStore.placeToWrite_eq_ok_iff.mpr ⟨leads, Or.inl ⟨⟨_, held⟩, by decide⟩⟩⟩

theorem holds_shelf : shelf.Holds "in.nc" (Dataset.sample "height") where
  near := by decide
  own := by decide
  fetched := by
    rw [FileStore.fetch, FileStore.place_eq_walk (by decide) (by decide)]
    rfl

/-- The job that extracts the sample. -/
def shelfJob : Job where
  input := "in.nc"
  field := "v"
  output := steppingBack
  filters := []
  maxRows := none
  batchSize := defaultBatchSize
  compression := Job.defaultCompression
  input_ne := by decide
  field_ne := by decide
  output_ne := by decide
  maxRows_pos := Job.pos_of_unlimited
  batchSize_pos := by decide

theorem exists_table_shelfJob
    : ∃ table, shelfJob.tableFrom (Dataset.sample "height") = .ok table :=
  Outcome.exists_ok_of_isOk (by decide +kernel)

/-- What the extraction does: the file that was there is another one, and it ends well just if the
console takes the path.
-/
theorem run_steppingBack (takes : Bool)
    : ∃ table,
        (run (consoleOf takes) shelf [] (shelving steppingBack)).1
          = widerShelf.put ["x.parquet"] (.table table)
        ∧ (run (consoleOf takes) shelf [] (shelving steppingBack)).2.exitCode
          = if takes then 0 else 1 := by
  have parsed : Invocation.ofArguments (shelving steppingBack)
      = .ok ⟨some LogRecord.warningLevel,
          .extract "in.nc" "v" steppingBack [] ⟨none, false, false⟩⟩ := rfl
  have spelled : (spelledJob [] "in.nc" "v" steppingBack [] ⟨none, false, false⟩).outcome
      = .ok shelfJob := rfl
  have writable : shelf.ensureWritable steppingBack false = .ok steppingBack :=
    FileStore.ensureWritable_eq_ok_iff.mpr
      ⟨by decide, Or.inr (Or.inr exists?_steppingBack)⟩
  obtain ⟨table, extracted⟩ := exists_table_shelfJob
  have prepared : (shelfJob.prepare shelf none false).outcome = .ok (steppingBack, table) :=
    Job.prepare_eq_ok_iff.mpr ⟨writable, _, holds_shelf.openDataset, extracted⟩
  refine ⟨table, ?_⟩
  simp only [run, parsed, Command.run, Command.perform, runJob, spelled, Job.process, prepared,
    FileStore.saveTable, writable, makeParents_steppingBack, writeTable_steppingBack,
    Bool.false_eq_true, if_false, true_and]
  cases takes <;>
    simp [Reply.exitCode, spelled, prepared, FileStore.reportTable, Host.show, consoleOf,
      raiseFault, pure, Except.pure, Except.isOk, Except.toBool]

/-- A path that steps back out of a folder that is made for it leads to a file that was there: it
is replaced, although that was not asked for, and the command ends well. It does not end well with a
console that does not take the path, but the file is replaced all the same.
-/
theorem file_replaced_unasked
    : (∃ request,
        requestOf (consoleOf true) shelf [] (shelving steppingBack) = some request
        ∧ ¬request.replace)
      ∧ FileStore.content? ["x.parquet"] shelf.files = some (.text "kept")
      ∧ ((run (consoleOf true) shelf [] (shelving steppingBack)).2.exitCode = 0
        ∧ ∃ table,
            FileStore.content? ["x.parquet"]
              (run (consoleOf true) shelf [] (shelving steppingBack)).1.files
            = some (.table table))
      ∧ (run (consoleOf false) shelf [] (shelving steppingBack)).2.exitCode ≠ 0
      ∧ ∃ table,
          FileStore.content? ["x.parquet"]
            (run (consoleOf false) shelf [] (shelving steppingBack)).1.files
          = some (.table table) := by
  have asked : requestOf (consoleOf true) shelf [] (shelving steppingBack)
      = some ⟨.ok [], .ok shelfJob, none, false⟩ := rfl
  obtain ⟨shown, replaced, ends⟩ := run_steppingBack true
  obtain ⟨unshown, replacedToo, fails⟩ := run_steppingBack false
  refine ⟨⟨_, asked, by decide⟩, rfl, ⟨ends, shown, ?_⟩, ?_, unshown, ?_⟩
  · rw [replaced]
    exact FileStore.content?_putContent_self ..
  · rw [fails]
    exact Nat.one_ne_zero
  · rw [replacedToo]
    exact FileStore.content?_putContent_self ..

end GridTable.CommandLine
