import GridTable.Proofs.FileStore.Folders
import GridTable.Proofs.Journal
import GridTable.Table.Saving

/-! Saving a table: one file is another one afterwards, or none at all. Unless it may be
replaced, there was none, as long as the path does not step back out of folders that are made
for it only after the look at what is there.
-/

namespace GridTable

theorem Path.withTableEnding_withTableEnding (text : String)
    : withTableEnding (withTableEnding text) = withTableEnding text := by
  have ended : tableEnding.toList.isSuffixOf (withTableEnding text).toList := by
    rw [withTableEnding]
    split
    · assumption
    · simp
  rw [withTableEnding, if_pos ended]

namespace FileStore

variable {store made written : FileStore} {table : Table} {codec : Json}
variable {text target : String} {replace : Bool}

-----------------------------------------------------------------------------------------
-- Steps
-----------------------------------------------------------------------------------------

theorem ensureWritable_eq_ok_iff
    : store.ensureWritable text replace = .ok target
      ↔ Path.withTableEnding text = target
        ∧ (replace
          ∨ Path.isRemote target
          ∨ store.exists? (Path.ofText target) = .ok false) := by
  rw [ensureWritable]
  by_cases known : replace ∨ Path.isRemote (Path.withTableEnding text)
  · rw [if_pos (by simpa using known), Except.ok.injEq]
    refine ⟨?_, And.left⟩
    rintro rfl
    exact ⟨rfl, known.imp_right Or.inl⟩
  · have absent
        : Path.withTableEnding text = target
            ∧ (replace ∨ Path.isRemote target ∨ store.exists? (Path.ofText target) = .ok false)
          ↔ Path.withTableEnding text = target
            ∧ store.exists? (Path.ofText (Path.withTableEnding text)) = .ok false := by
      refine and_congr_right ?_
      rintro rfl
      simp [not_or.mp known]
    rw [if_neg (by simpa using known), absent]
    cases store.exists? (Path.ofText (Path.withTableEnding text)) with
    | error fault => simp [raiseFault]
    | ok found => cases found <;> simp

theorem exists_withFolders_of_makeParents {outcome : Except Fault Unit}
    (parents : store.makeParents target = (made, outcome))
    : ∃ more, made = store.withFolders more := by
  rw [makeParents] at parents
  split at parents
  · cases parents
    exact ⟨[], by simp [withFolders]⟩
  · obtain ⟨more, hmade⟩ := exists_withFolders_of_makeFoldersUpTo store _ _
    rw [← makeFolders, parents] at hmade
    exact ⟨more, hmade⟩

theorem files_of_makeParents {outcome : Except Fault Unit}
    (parents : store.makeParents target = (made, outcome))
    : made.files = store.files := by
  obtain ⟨more, rfl⟩ := exists_withFolders_of_makeParents parents
  rfl

theorem placeOfTable_eq_ok_iff {place : Place}
    : store.placeOfTable target = .ok place
      ↔ ¬store.isFolderAt (Path.ofText target)
        ∧ store.isFolderAt (store.tablePath target).parent
        ∧ ¬(store.tablePath target).name.contains '\x00'
        ∧ store.placeToWrite (store.tablePath target) = .ok place := by
  rw [placeOfTable]
  by_cases folder : store.isFolderAt (Path.ofText target)
  · simp [folder]
  · rw [if_neg folder, and_iff_right folder, Outcome.bind_eq_ok_iff]
    simp only [Unique.exists_iff, PUnit.default_eq_unit, checkFolder_eq_ok_iff]
    refine and_congr_right fun _ => ?_
    by_cases void : (store.tablePath target).name.contains '\x00'
    · simp [void]
    · rw [if_neg void, and_iff_right void]

theorem writeTable_eq_ok_iff
    : store.writeTable table codec target = .ok written
      ↔ store.unsaved codec table = none
        ∧ ∃ place,
            store.placeOfTable target = .ok place ∧ store.put place (.table table) = written := by
  rw [writeTable, Outcome.bind_eq_ok_iff]
  cases store.unsaved codec table with
  | none => simp
  | some fault => simp

-----------------------------------------------------------------------------------------
-- Saved tables
-----------------------------------------------------------------------------------------

/-- A target whose path leads to one place all along: there is no tilde to be read as a home folder,
and there are no double dots, or the folder is there already.
-/
structure IsPlain (store : FileStore) (target : String) : Prop where
  own : Path.expandUser store.homes target = target
  straight :
    ".." ∉ (Path.ofText target).components ∨ store.isFolderAt (Path.ofText target).parent

/-- What it means for a table to be saved at a place, where the path of a target leads to. Unless
it may be replaced, nothing was found there by the path, and if that is plain, there was no file
at the place.
-/
structure Saved (store : FileStore) (table : Table) (target : String) (replace : Bool)
    (place : Place) (after : FileStore)
    : Prop where
  written : content? place after.files = some (.table table)
  others : ∀ other, other ≠ place → content? other after.files = content? other store.files
  found : after.find (store.tablePath target) = .ok (.file (.table table))
  absent : ¬replace → ¬Path.isRemote target → store.exists? (Path.ofText target) = .ok false
  fresh : ¬replace → ¬Path.isRemote target → store.IsPlain target →
    content? place store.files = none

/-- What is put where a plain path leads to is put in the place of no file, if nothing was found
by the path before folders were made.
-/
theorem IsPlain.content?_eq_none (plain : store.IsPlain target) (near : ¬Path.isRemote target)
    (absent : store.exists? (Path.ofText target) = .ok false)
    (parents : store.makeParents target = (made, .ok ())) {place : Place}
    (leads : made.place (Path.ofText target) = .ok place)
    : content? place store.files = none := by
  rw [makeParents, if_neg near] at parents
  rcases plain.straight with straight | folder
  · exact content?_of_straight straight absent parents leads
  · rw [makeFolders_of_isFolderAt folder] at parents
    cases parents
    rw [Option.eq_none_iff_forall_not_mem]
    intro content held
    exact not_found_of_exists? absent _
      (find_eq_ok_iff.mpr ⟨place, leads, occupant?_eq_file_iff.mpr held⟩)

theorem saved_of_writeTable
    (free : replace ∨ Path.isRemote target ∨ store.exists? (Path.ofText target) = .ok false)
    (parents : store.makeParents target = (made, .ok ()))
    (writes : made.writeTable table codec target = .ok written)
    : ∃ place, store.Saved table target replace place written := by
  obtain ⟨more, hmade⟩ := exists_withFolders_of_makeParents parents
  have absent (keeps : ¬replace) (near : ¬Path.isRemote target)
      : store.exists? (Path.ofText target) = .ok false :=
    (free.resolve_left keeps).resolve_left near
  obtain ⟨-, place, aimed, rfl⟩ := writeTable_eq_ok_iff.mp writes
  obtain ⟨-, -, -, reached⟩ := placeOfTable_eq_ok_iff.mp aimed
  obtain ⟨leads, allowed⟩ := placeToWrite_eq_ok_iff.mp reached
  have unblocked : made.occupant? place ≠ some .folder := by
    rcases allowed with ⟨⟨content, held⟩, -⟩ | ⟨free, -⟩
    · simp [held]
    · simp [free]
  have same : made.tablePath target = store.tablePath target := by
    rw [tablePath, hmade]
    rfl
  refine
    ⟨
      place,
      {
        written := content?_putContent_self place _ _
        others := fun other apart => ?_
        found := same ▸ find_put _ unblocked leads
        absent
        fresh := fun keeps near plain => ?_
      }
    ⟩
  · exact files_of_makeParents parents ▸ content?_putContent_of_ne apart _ _
  · rw [same, tablePath, plain.own] at leads
    exact plain.content?_eq_none near (absent keeps near) parents leads

/-- Saving a table fails with all files as they were, or ends with the table saved. -/
theorem saveTable_cases {after : FileStore} {run : Traced String}
    (h : store.saveTable table codec text replace = (after, run))
    : (∃ failure, run.outcome = .error failure ∧ after.files = store.files)
      ∨ (run.outcome = .ok (Path.withTableEnding text)
        ∧ ∃ place, store.Saved table (Path.withTableEnding text) replace place after) := by
  cases writable : store.ensureWritable text replace with
  | error failure =>
      simp only [saveTable, writable, Prod.mk.injEq] at h
      obtain ⟨rfl, rfl⟩ := h
      exact Or.inl ⟨failure, rfl, rfl⟩
  | ok target =>
      obtain ⟨rfl, free⟩ := ensureWritable_eq_ok_iff.mp writable
      rcases parents : store.makeParents (Path.withTableEnding text) with ⟨made, fault | ⟨⟩⟩
      · simp only [saveTable, writable, parents, Prod.mk.injEq] at h
        obtain ⟨rfl, rfl⟩ := h
        exact Or.inl ⟨.fault fault, rfl, files_of_makeParents parents⟩
      · cases writes : made.writeTable table codec (Path.withTableEnding text) with
        | error fault =>
            simp only [saveTable, writable, parents, writes, Prod.mk.injEq] at h
            obtain ⟨rfl, rfl⟩ := h
            have failed : (do
                  reportTable table (Path.withTableEnding text)
                  Traced.ofExcept (.error (writeFailure (Path.withTableEnding text) fault))
                  : Traced String).outcome
                = .error (writeFailure (Path.withTableEnding text) fault) := by
              simp [reportTable]
            exact Or.inl ⟨_, failed, files_of_makeParents parents⟩
        | ok written =>
            simp only [saveTable, writable, parents, writes, Prod.mk.injEq] at h
            obtain ⟨rfl, rfl⟩ := h
            have answered : (do
                  reportTable table (Path.withTableEnding text)
                  pure (Path.withTableEnding text)
                  : Traced String).outcome = .ok (Path.withTableEnding text) := by
              simp [reportTable, pure]
            exact Or.inr ⟨answered, saved_of_writeTable free parents writes⟩

-----------------------------------------------------------------------------------------
-- Tables that are not saved
-----------------------------------------------------------------------------------------

/-- A table that cannot be put where its target leads to, although the folders above are there or
were made.
-/
def Refuses (store : FileStore) (table : Table) (codec : Json) (target : String) (fault : Fault)
    : Prop :=
  ∃ made,
    store.makeParents target = (made, .ok ())
    ∧ made.writeTable table codec target = .error fault

/-- A table that the writer of table files does not save, although its file could be written. -/
def Spurns (store : FileStore) (table : Table) (codec : Json) (target : String) (fault : Fault)
    : Prop :=
  ∃ made place,
    store.makeParents target = (made, .ok ())
    ∧ made.placeOfTable target = .ok place
    ∧ store.unsaved codec table = some fault

theorem unsaved_makeParents (parents : store.makeParents target = (made, .ok ()))
    : made.unsaved = store.unsaved := by
  obtain ⟨more, rfl⟩ := exists_withFolders_of_makeParents parents
  rfl

theorem isSystematic_placeOfTable (store : FileStore) (target : String)
    : IsSystematic (store.placeOfTable target) := by
  refine .ite (isSystematic_error rfl) ?_
  refine (isSystematic_checkFolder rfl store _).bind fun _ => ?_
  exact .ite (isSystematic_error rfl) (store.isSystematic_placeToWrite _)

/-- Only the writer of table files refuses a table otherwise than by the system and for an unusable
value.
-/
theorem Refuses.spurns {fault : Fault} (refuses : store.Refuses table codec target fault)
    (foreign : ¬fault.isOfSystemOrValue)
    : store.Spurns table codec target fault := by
  obtain ⟨made, parents, refused⟩ := refuses
  rw [writeTable] at refused
  rcases Outcome.bind_eq_error_iff.mp refused with unplaced | ⟨place, aimed, unsaved⟩
  · exact absurd (made.isSystematic_placeOfTable target fault unplaced) foreign
  · refine ⟨made, place, parents, aimed, ?_⟩
    rw [← unsaved_makeParents parents]
    split at unsaved
    · next other held =>
        cases unsaved
        exact held
    · cases unsaved

theorem Spurns.refuses {fault : Fault} (spurns : store.Spurns table codec target fault)
    : store.Refuses table codec target fault := by
  obtain ⟨made, place, parents, aimed, unsaved⟩ := spurns
  rw [← unsaved_makeParents parents] at unsaved
  exact ⟨made, parents, by rw [writeTable, aimed, Outcome.ok_bind, unsaved]⟩

/-- How writing a table fails, such that it is noticed: the folders above its target cannot be made,
or they can and the table cannot be put there.
-/
inductive Unwritten (store : FileStore) (table : Table) (codec : Json) (target : String)
    : Failure → Prop
  | homeless {fault : Fault} (refused : (store.makeParents target).2 = .error fault)
    : store.Unwritten table codec target (.fault fault)
  | refused {fault : Fault} (refused : store.Refuses table codec target fault)
    (noticed : fault.isOfSystemOrValue)
    : store.Unwritten table codec target (.error (.outputWrite target (.ofFault fault)))

/-- Saving a table that may be replaced only fails while it is written. -/
theorem unwritten_of_saveTable {failure : Failure}
    (h : (store.saveTable table codec text true).2.outcome = .error failure)
    : store.Unwritten table codec (Path.withTableEnding text) failure
      ∨ ∃ fault,
          failure = .fault fault
          ∧ store.Spurns table codec (Path.withTableEnding text) fault
          ∧ ¬fault.isOfSystemOrValue := by
  have writable : store.ensureWritable text true = .ok (Path.withTableEnding text) := rfl
  rw [saveTable, writable] at h
  rcases parents : store.makeParents (Path.withTableEnding text) with ⟨made, fault | ⟨⟩⟩
  · simp only [parents, Traced.outcome_ofExcept, raiseFault, Except.error.injEq] at h
    subst h
    exact Or.inl (.homeless (by rw [parents]))
  · simp only [parents] at h
    cases writes : made.writeTable table codec (Path.withTableEnding text) with
    | error fault =>
        simp only [writes, reportTable, Traced.outcome_bind, Traced.outcome_info,
          Traced.outcome_debug, Traced.outcome_ofExcept, Outcome.ok_bind,
          Except.error.injEq] at h
        have refuses : store.Refuses table codec _ fault := ⟨made, parents, writes⟩
        subst h
        rw [writeFailure]
        split
        · next noticed => exact Or.inl (.refused refuses noticed)
        · next foreign => exact Or.inr ⟨fault, rfl, refuses.spurns foreign, foreign⟩
    | ok written => simp [writes, reportTable] at h

end FileStore

end GridTable
