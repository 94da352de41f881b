import GridTable.Proofs.CommandLine.Writing
import GridTable.Proofs.Filter.Merging
import GridTable.Proofs.Job.RowLimit

/-! Settings that are given explicitly, and the variables that they take the place of. A variable
that can be read makes no difference then. One that cannot be read is complained about all the
same, except that no extraction looks at the variable of the row limit.
-/

namespace GridTable

open Outcome

namespace Traced

variable {α β : Type}

/-- Continuations that are the same for answers that belong together make the same of computations
that end together.
-/
theorem bind_eq_of_together {related : α → α → Prop} {run other : Traced α}
    {next after : α → Traced β} (events : run.events = other.events)
    (h : Together related run.outcome other.outcome)
    (hnext : ∀ answer same, related answer same → next answer = after same)
    : run >>= next = other >>= after := by
  rcases run with ⟨noted, ended⟩
  rcases other with ⟨_, otherEnded⟩
  cases events
  cases h with
  | error failure => rfl
  | ok same => rw [bind_ok next rfl, bind_ok after rfl, hnext _ _ same]

end Traced

namespace CommandLine

variable {host : Host} {room : Job.Room} {store : FileStore} {first second : Environment}

theorem merge_eq_of_sameBut (explicit : List Filter)
    (same : Environment.SameBut Environment.rowsVariable first second)
    : Filter.merge explicit first = Filter.merge explicit second := by
  rw [Filter.merge, Filter.merge, same.filters_eq]

/-- A command that is given a row limit. -/
def Command.isLimited : Command → Bool
  | .convert _ _ options | .extract _ _ _ _ options => options.maxRows.isSome
  | _ => false

/-- A conversion of a job that leaves its row limit open. -/
def Command.DefersLimit (room : Job.Room) (store : FileStore) : Command → Prop
  | .convert config _ _ =>
      ∃ text, store.readText (Path.ofText config) = .ok text ∧ Job.LeavesLimitOpen room text
  | _ => False

theorem load_together {config : String}
    (said
      : ∀ text, store.readText (Path.ofText config) = .ok text → Job.LeavesLimitOpen room text
        → Abreast first.maxRows second.maxRows)
    : (Job.load room store first (Path.ofText config)).events
          = (Job.load room store second (Path.ofText config)).events
        ∧ Together Job.SameButLimit
            (Job.load room store first (Path.ofText config)).outcome
            (Job.load room store second (Path.ofText config)).outcome := by
  rw [Job.load, Job.load]
  cases read : store.readText (Path.ofText config) with
  | error fault => exact ⟨rfl, .refl Job.SameButLimit.refl _⟩
  | ok text =>
      refine ⟨rfl, ?_⟩
      simp only [Traced.outcome_bind, Traced.outcome_info, ok_bind, Traced.outcome_liftM]
      exact Job.together_ofText (said text read)

/-- The limit that is given takes the place of the one by which the jobs differ. -/
theorem convertedJob_eq {config : String} {options : WriteOptions}
    (limited : options.maxRows.isSome)
    (same : Environment.SameBut Environment.rowsVariable first second)
    (said
      : ∀ text, store.readText (Path.ofText config) = .ok text → Job.LeavesLimitOpen room text
        → Abreast first.maxRows second.maxRows)
    : convertedJob room store first config options
      = convertedJob room store second config options := by
  obtain ⟨limit, given⟩ := Option.isSome_iff_exists.mp limited
  obtain ⟨events, alike⟩ := load_together said
  simp only [convertedJob, loadJob, bind_assoc, pure_bind, given]
  refine Traced.bind_eq_of_together events alike fun job other like => ?_
  obtain ⟨maxRows, maxRows_pos, rfl⟩ := like
  rw [merge_eq_of_sameBut _ same]
  cases limit <;> rfl

theorem spelledJob_eq {input field output : String}
    {texts : List (Filter.Kind × Option String)} {options : WriteOptions}
    (limited : options.maxRows.isSome)
    (same : Environment.SameBut Environment.rowsVariable first second)
    : spelledJob first input field output texts options
      = spelledJob second input field output texts options := by
  obtain ⟨limit, given⟩ := Option.isSome_iff_exists.mp limited
  simp only [spelledJob, spelledFilters, given, merge_eq_of_sameBut _ same]

/-- A command that is given a row limit does the same, unless it defers to a limit of which not the
same is said.
-/
theorem Command.run_eq {command : Command} (limited : command.isLimited)
    (same : Environment.SameBut Environment.rowsVariable first second)
    (said : command.DefersLimit host.room store → Abreast first.maxRows second.maxRows)
    : command.run host store first = command.run host store second := by
  cases command with
  | convert config output options =>
      rw [Command.run, Command.run, Command.perform, Command.perform,
        convertedJob_eq limited same fun text read left => said ⟨text, read, left⟩]
  | extract input field output filters options =>
      rw [Command.run, Command.run, Command.perform, Command.perform,
        spelledJob_eq limited same]
  | validate config isDetailed => cases limited
  | info input field asJson => cases limited

/-- A conversion that defers to a limit that cannot be read ends with a complaint about it. -/
theorem Command.run_of_defersLimit {command : Command} {failure : Failure}
    (defers : command.DefersLimit host.room store) (failed : first.maxRows = .error failure)
    : ∃ result,
        command.run host store first = (store, result) ∧ result.outcome = .error failure := by
  cases command with
  | convert config output options =>
      obtain ⟨text, read, left⟩ := defers
      have stopped
          : (convertedJob host.room store first config options).outcome = .error failure := by
        simp [convertedJob, loadJob, Job.load, read,
          Job.ofText_of_leavesLimitOpen left failed]
      rw [Command.run, Command.perform, runJob, stopped]
      exact ⟨_, rfl, rfl⟩
  | extract input field output filters options => cases defers
  | validate config isDetailed => cases defers
  | info input field asJson => cases defers

/-- Explicit settings take the place of variables that can be read. In environments that differ in
the variable of a kind of which there is an explicit filter, the filters are merged alike just if
the variable can be read in both, or the same is said of it, or an earlier one cannot be read. In
environments that differ in the variable of the row limit, a command line with a row limit does the
same, unless it converts a job that leaves its limit open and the variable is not alike in that
sense; what is said of the variable is then all that the conversion comes to.
-/
theorem explicit_settings_prevail (first second : Environment)
    : (∀ explicit kind,
        (∃ filter ∈ explicit, filter.kind = kind)
        → Environment.SameBut (Environment.filtersVariable kind) first second
        → ((Filter.merge explicit first).outcome = (Filter.merge explicit second).outcome
            ↔ Filter.IsSaidAlike first second kind)
          ∧ (Filter.IsSaidAlike first second kind
            → Filter.merge explicit first = Filter.merge explicit second))
      ∧ ∀ host store arguments invocation,
          Invocation.ofArguments arguments = .ok invocation
          → invocation.command.isLimited
          → Environment.SameBut Environment.rowsVariable first second
          → ((invocation.command.DefersLimit host.room store
                → Abreast first.maxRows second.maxRows)
              → run host store first arguments = run host store second arguments)
            ∧ ∀ level failure,
                invocation.level = some level
                → invocation.command.DefersLimit host.room store
                → first.maxRows = .error failure
                → ∃ result,
                    run host store first arguments = (store, .ran level result)
                    ∧ result.outcome = .error failure := by
  refine ⟨fun explicit kind held same => ⟨⟨?_, fun said => ?_⟩, fun said => ?_⟩, ?_⟩
  · exact Filter.isSaidAlike_of_outcome_merge same
  · rw [Filter.merge_eq_of_isSaidAlike held same said]
  · exact Filter.merge_eq_of_isSaidAlike held same said
  · intro host store arguments invocation asked limited same
    constructor
    · intro said
      rw [run, run, asked]
      simp only [Command.run_eq limited same said]
    · intro level failure shown defers failed
      obtain ⟨result, ended, outcome⟩ := Command.run_of_defersLimit defers failed
      refine ⟨result, ?_, outcome⟩
      simp only [run, asked, shown, ended]

-----------------------------------------------------------------------------------------
-- A store with a job
-----------------------------------------------------------------------------------------

/-- The document of a job that leaves its row limit open. -/
def openDocument : String :=
  "\x7b\"nc_key\": \"in.nc\", \"variable_name\": \"v\", \"parquet_key\": \"out.parquet\"\x7d"

/-- A dataset, and the document of a job that extracts a variable of it. -/
def desk : FileStore where
  folders := []
  files := [(["in.nc"], .dataset (Dataset.sample "height")), (["job.json"], .text openDocument)]

/-- The conversion of the job with a row limit, without writing its table. -/
def limitedConversion : List String :=
  ["convert", "job.json", "--max-rows", "5", "--dry-run"]

/-- The extraction of the variable with a row limit. -/
def limitedExtraction : List String :=
  ["extract", "in.nc", "-v", "v", "-o", "out.parquet", "--max-rows", "5"]

/-- How many lists and objects the documents may hold in each other. -/
def deskRoom : Job.Room :=
  (consoleOf true).room

theorem room_consoleOf (takes : Bool) : (consoleOf takes).room = deskRoom :=
  rfl

/-- Runs a command line on the store. -/
def runAtDesk (environment : Environment) (arguments : List String) : FileStore × Reply :=
  run (consoleOf true) desk environment arguments

theorem sameBut_singleton (name value : String)
    : Environment.SameBut name [(name, value)] [] := by
  intro other apart
  simp [Environment.text, Keyed.find?, Ne.symm apart]

/-- A filter takes the place of a variable that can be read, and a row limit that of one that can
be read, or of any in an extraction.
-/
theorem explicit_settings_prevail_desk
    : Filter.merge [.range "x" 0.0 1.0] [("NC2PARQUET_RANGE_FILTERS", "x:5:6")]
        = Filter.merge [.range "x" 0.0 1.0] []
      ∧ runAtDesk [("NC2PARQUET_MAX_ROWS", "7")] limitedConversion
        = runAtDesk [] limitedConversion
      ∧ runAtDesk [("NC2PARQUET_MAX_ROWS", "many")] limitedExtraction
        = runAtDesk [] limitedExtraction := by
  refine ⟨?_, ?_, ?_⟩
  · obtain ⟨merges, -⟩ := explicit_settings_prevail [("NC2PARQUET_RANGE_FILTERS", "x:5:6")] []
    refine (merges _ .range ⟨_, List.mem_singleton_self _, rfl⟩ (sameBut_singleton _ _)).2
      (Or.inr ?_)
    exact .ok trivial
  · obtain ⟨-, runs⟩ := explicit_settings_prevail [("NC2PARQUET_MAX_ROWS", "7")] []
    exact (runs (consoleOf true) desk _ _ rfl rfl (sameBut_singleton _ _)).1 fun _ => .ok trivial
  · obtain ⟨-, runs⟩ := explicit_settings_prevail [("NC2PARQUET_MAX_ROWS", "many")] []
    exact (runs (consoleOf true) desk _ _ rfl rfl (sameBut_singleton _ _)).1 nofun

theorem readText_desk : desk.readText (Path.ofText "job.json") = .ok openDocument := by
  have fetched : desk.fetch (Path.ofText "job.json") = .ok (.file (.text openDocument)) := by
    rw [FileStore.fetch, FileStore.place_eq_walk (by decide) (by decide)]
    rfl
  rw [FileStore.readText, FileStore.storedText, fetched]
  rfl

theorem holds_desk : desk.Holds "in.nc" (Dataset.sample "height") where
  near := by decide
  own := by decide
  fetched := by
    rw [FileStore.fetch, FileStore.place_eq_walk (by decide) (by decide)]
    rfl

theorem exists_job_desk
    : ∃ job, Job.ofText deskRoom [] openDocument = .ok job
      ∧ job.input = "in.nc" ∧ job.field = "v" ∧ job.filters = [] := by
  have fits : (Job.ofText deskRoom [] openDocument).toOption.any fun job =>
      job.input == "in.nc" && job.field == "v" && job.filters.isEmpty := by
    decide +kernel
  cases read : Job.ofText deskRoom [] openDocument with
  | error failure =>
      rw [read] at fits
      cases fits
  | ok job =>
      rw [read] at fits
      exact ⟨job, rfl, by simpa [Except.toOption, and_assoc] using fits⟩

theorem exists_summary_desk {job : Job} (input : job.input = "in.nc") (field : job.field = "v")
    (filters : job.filters = [])
    : ∃ summary, (job.summarize desk none).outcome = .ok summary := by
  have checked : job.check desk = .ok () := by
    rw [Job.check, input, if_neg holds_desk.near, holds_desk.isFile]
    rfl
  have axes : ((Dataset.sample "height").axesOf "v").isOk := by
    decide +kernel
  have rows : ((Dataset.sample "height").source.estimateRows "v" []).outcome.isOk := by
    decide +kernel
  obtain ⟨axes, described⟩ := exists_ok_of_isOk axes
  obtain ⟨rows, counted⟩ := exists_ok_of_isOk rows
  simp [Job.summarize, input, field, filters, checked, holds_desk.openDataset, described, counted,
    pure]

theorem ofArguments_limitedConversion
    : Invocation.ofArguments limitedConversion
      = .ok
          ⟨
            some LogRecord.warningLevel,
            .convert "job.json" none ⟨some (some 5), false, true⟩
          ⟩ :=
  rfl

/-- Where no variable is set, the conversion ends well. -/
theorem exitCode_limitedConversion : (runAtDesk [] limitedConversion).2.exitCode = 0 := by
  obtain ⟨own, read, input, field, filters⟩ := exists_job_desk
  have converted : ∃ job : Job,
      (convertedJob deskRoom desk [] "job.json" ⟨some (some 5), false, true⟩).outcome = .ok job
      ∧ job.input = "in.nc" ∧ job.field = "v" ∧ job.filters = [] := by
    simp only [convertedJob, loadJob, Job.load, readText_desk, Traced.outcome_bind,
      Traced.outcome_info, ok_bind, Traced.outcome_liftM, read, Filter.outcome_merge_nil,
      Traced.outcome_pure]
    exact ⟨_, rfl, input, field, filters⟩
  obtain ⟨job, converted, input, field, filters⟩ := converted
  obtain ⟨summary, summarized⟩ := exists_summary_desk input field filters
  have shown : (consoleOf true).show [summary.text] = .ok [summary.text] := rfl
  simp [runAtDesk, run, ofArguments_limitedConversion, Command.run, Command.perform, runJob,
    room_consoleOf, converted, summarized, shown, Reply.exitCode, pure, Except.isOk, Except.toBool]

/-- A filter does not keep a malformed variable from being complained about, and a row limit does
not keep a conversion from it.
-/
theorem explicit_settings_disturbed
    : Environment.SameBut "NC2PARQUET_RANGE_FILTERS" [("NC2PARQUET_RANGE_FILTERS", "x")] []
      ∧ (Filter.merge [.range "x" 0.0 1.0] [("NC2PARQUET_RANGE_FILTERS", "x")]).outcome
        ≠ (Filter.merge [.range "x" 0.0 1.0] []).outcome
      ∧ Environment.SameBut "NC2PARQUET_MAX_ROWS" [("NC2PARQUET_MAX_ROWS", "many")] []
      ∧ (runAtDesk [("NC2PARQUET_MAX_ROWS", "many")] limitedConversion).2.exitCode
        ≠ (runAtDesk [] limitedConversion).2.exitCode := by
  refine ⟨sameBut_singleton _ _, ?_, sameBut_singleton _ _, ?_⟩
  · rw [Filter.outcome_merge_nil]
    intro same
    have fails
        : (Filter.merge [.range "x" 0.0 1.0]
            [("NC2PARQUET_RANGE_FILTERS", "x")]).outcome.isOk = false := by
      decide +kernel
    rw [same] at fails
    cases fails
  · have fails
        : (Job.ofText deskRoom [("NC2PARQUET_MAX_ROWS", "many")] openDocument).isOk = false := by
      decide +kernel
    rw [exitCode_limitedConversion]
    cases read : Job.ofText deskRoom [("NC2PARQUET_MAX_ROWS", "many")] openDocument with
    | ok job =>
        rw [read] at fails
        cases fails
    | error failure =>
        have stopped : (convertedJob deskRoom desk [("NC2PARQUET_MAX_ROWS", "many")] "job.json"
            ⟨some (some 5), false, true⟩).outcome = .error failure := by
          simp [convertedJob, loadJob, Job.load, readText_desk, read]
        simp [runAtDesk, run, ofArguments_limitedConversion, Command.run, Command.perform, runJob,
          room_consoleOf, stopped, Reply.exitCode, Except.isOk, Except.toBool]

end CommandLine

end GridTable
