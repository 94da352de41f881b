import GridTable.FileStore
import GridTable.Proofs.Outcome

/-! What files hold after folders were made and a file was written: one file at most is another
one, and what was found before is found again.
-/

namespace GridTable.FileStore

variable {store made : FileStore} {path : Path} {place other : Place}

-----------------------------------------------------------------------------------------
-- Contents
-----------------------------------------------------------------------------------------

theorem content?_putContent_self (place : Place) (content : Content)
    (files : List (Place × Content))
    : content? place (putContent place content files) = some content := by
  induction files with
  | nil => simp [putContent, content?]
  | cons entry rest ih =>
      by_cases h : entry.1 = place <;> simp [putContent, content?, h, ih]

theorem content?_putContent_of_ne {place other : Place} (h : other ≠ place)
    (content : Content) (files : List (Place × Content))
    : content? other (putContent place content files) = content? other files := by
  induction files with
  | nil => simp [putContent, content?, h.symm]
  | cons entry rest ih =>
      by_cases hk : entry.1 = place
      · simp [putContent, content?, hk, h.symm]
      · simp [putContent, content?, hk, ih]

theorem mem_of_content? {place : Place} {content : Content} {files : List (Place × Content)}
    (h : content? place files = some content)
    : (place, content) ∈ files := by
  induction files with
  | nil => simp [content?] at h
  | cons entry rest ih =>
      rw [content?] at h
      split at h
      · next same =>
          obtain rfl := Option.some.inj h
          exact same ▸ List.mem_cons_self
      · exact List.mem_cons_of_mem _ (ih h)

/-- No file gets lost. -/
theorem exists_mem_putContent (place : Place) (content : Content)
    {files : List (Place × Content)} {entry : Place × Content} (hm : entry ∈ files)
    : ∃ other ∈ putContent place content files, other.1 = entry.1 := by
  induction files with
  | nil => simp at hm
  | cons first rest ih =>
      rw [putContent]
      split
      · next same =>
          rcases List.mem_cons.mp hm with rfl | hm
          · exact ⟨_, List.mem_cons_self, rfl⟩
          · exact ⟨entry, List.mem_cons_of_mem _ hm, rfl⟩
      · rcases List.mem_cons.mp hm with rfl | hm
        · exact ⟨_, List.mem_cons_self, rfl⟩
        · obtain ⟨other, ho, same⟩ := ih hm
          exact ⟨other, List.mem_cons_of_mem _ ho, same⟩

-----------------------------------------------------------------------------------------
-- Entries
-----------------------------------------------------------------------------------------

theorem occupant?_eq_file_iff {content : Content}
    : store.occupant? place = some (.file content)
      ↔ content? place store.files = some content := by
  rw [occupant?]
  cases content? place store.files with
  | some other => simp
  | none => simp

theorem occupant?_eq_folder_iff
    : store.occupant? place = some .folder
      ↔ content? place store.files = none ∧ store.isFolder place := by
  rw [occupant?]
  cases content? place store.files with
  | some content => simp
  | none => simp

theorem occupant?_eq_none_iff
    : store.occupant? place = none
      ↔ content? place store.files = none ∧ ¬store.isFolder place := by
  rw [occupant?]
  cases content? place store.files with
  | some content => simp
  | none => simp

/-- A folder is one by itself, or there is a file or a link below it. -/
theorem isFolder_iff
    : store.isFolder place
      ↔ (∃ folder ∈ store.here :: store.folders, place <+: folder)
        ∨ (∃ entry ∈ store.files, entry.1 ≠ place ∧ place <+: entry.1)
        ∨ ∃ entry ∈ store.links, entry.1 ≠ place ∧ place <+: entry.1 := by
  simp [isFolder, or_and_right, exists_or]

/-- A place at which there is neither a file nor a folder nor a link. -/
structure IsVacant (store : FileStore) (place : Place) : Prop where
  entry : store.occupant? place = none
  link : store.link? place = none

theorem mem_of_lookup {places : List (Place × Path)} {target : Path}
    (h : places.lookup place = some target)
    : (place, target) ∈ places := by
  obtain ⟨before, after, rfl, -⟩ := List.lookup_eq_some_iff.mp h
  simp

/-- Below a vacant place everything is vacant, as far as files and links go. -/
theorem IsVacant.below (vacant : store.IsVacant place) (below : place <+: other)
    : content? other store.files = none ∧ store.link? other = none := by
  by_cases same : other = place
  · exact same ▸ ⟨(occupant?_eq_none_iff.mp vacant.entry).1, vacant.link⟩
  · have apart := (occupant?_eq_none_iff.mp vacant.entry).2
    rw [isFolder_iff, not_or, not_or] at apart
    obtain ⟨-, files, links⟩ := apart
    constructor
    · rw [Option.eq_none_iff_forall_not_mem]
      exact fun content held => files ⟨_, mem_of_content? held, same, below⟩
    · rw [Option.eq_none_iff_forall_not_mem]
      exact fun target held => links ⟨_, mem_of_lookup held, same, below⟩

-----------------------------------------------------------------------------------------
-- Findings
-----------------------------------------------------------------------------------------

theorem find_eq_ok_iff {entry : Entry}
    : store.find path = .ok entry
      ↔ ∃ place, store.place path = .ok place ∧ store.occupant? place = some entry := by
  rw [find, Outcome.bind_eq_ok_iff]
  refine exists_congr fun place => and_congr_right fun _ => ?_
  cases store.occupant? place <;> simp

theorem fetch_eq_ok_iff {entry : Entry}
    : store.fetch path = .ok entry
      ↔ ∃ place,
          store.place path = .ok place
          ∧ store.occupant? place = some entry
          ∧ ¬store.denied .read place := by
  rw [fetch, Outcome.bind_eq_ok_iff]
  refine exists_congr fun place => and_congr_right fun _ => ?_
  cases store.occupant? place with
  | none => simp
  | some found => by_cases denied : store.denied .read place <;> simp [denied]

theorem isFolderAt_iff : store.isFolderAt path ↔ store.find path = .ok .folder := by
  rw [isFolderAt]
  split
  · next found => simp [found]
  · next absent => simpa using absent

theorem not_found_of_exists? (h : store.exists? path = .ok false) (entry : Entry)
    : store.find path ≠ .ok entry := by
  intro found
  simp [exists?, lookup?, found, Except.map] at h

theorem checkFolder_eq_ok_iff {fault : Fault}
    : store.checkFolder path fault = .ok () ↔ store.isFolderAt path := by
  rw [isFolderAt_iff, checkFolder, Outcome.bind_eq_ok_iff, lookup?]
  cases store.find path with
  | ok entry => cases entry <;> simp
  | error fault => by_cases absent : fault.isAbsence <;> simp [absent]

theorem placeToWrite_eq_ok_iff
    : store.placeToWrite path = .ok place
      ↔ store.place path = .ok place
        ∧ ((∃ content, store.occupant? place = some (.file content))
            ∧ ¬store.denied .write place
          ∨ store.occupant? place = none ∧ ¬store.denied .add place.dropLast) := by
  cases leads : store.place path with
  | error fault => simp [placeToWrite, leads]
  | ok reached =>
      rw [placeToWrite, leads, Outcome.ok_bind, Except.ok.injEq]
      constructor
      · intro answered
        cases held : store.occupant? reached with
        | none =>
            by_cases denied : store.denied .add reached.dropLast
            · simp [held, denied] at answered
            · obtain rfl : reached = place := by simpa [held, denied] using answered
              exact ⟨rfl, Or.inr ⟨held, denied⟩⟩
        | some entry =>
            cases entry with
            | folder => simp [held] at answered
            | file content =>
                by_cases denied : store.denied .write reached
                · simp [held, denied] at answered
                · obtain rfl : reached = place := by simpa [held, denied] using answered
                  exact ⟨rfl, Or.inl ⟨⟨content, held⟩, denied⟩⟩
      · rintro ⟨rfl, ⟨⟨content, held⟩, denied⟩ | ⟨held, denied⟩⟩
        · simp [held, denied]
        · simp [held, denied]

-----------------------------------------------------------------------------------------
-- Making folders
-----------------------------------------------------------------------------------------

/-- The store with folders more. -/
def withFolders (store : FileStore) (more : List Place) : FileStore :=
  { store with folders := store.folders ++ more }

theorem makeFolder_eq_ok_iff
    : store.makeFolder path = .ok made
      ↔ ∃ place,
          store.site path = .ok place
          ∧ store.IsVacant place
          ∧ ¬store.denied .add place.dropLast
          ∧ store.withFolders [place] = made := by
  rw [makeFolder, Outcome.bind_eq_ok_iff]
  refine exists_congr fun place => and_congr_right fun _ => ?_
  cases link : store.link? place with
  | some target => simpa using fun vacant : store.IsVacant place => by simp [vacant.link] at link
  | none =>
      cases entry : store.occupant? place with
      | some found =>
          simpa using fun vacant : store.IsVacant place => by simp [vacant.entry] at entry
      | none =>
          have vacant : store.IsVacant place := ⟨entry, link⟩
          by_cases denied : store.denied .add place.dropLast <;>
            simp [denied, vacant, withFolder, withFolders]

/-- Folders are made or are there already. -/
theorem ensureFolder_eq_ok_iff
    : store.ensureFolder path = (made, .ok ())
      ↔ store.makeFolder path = .ok made
        ∨ (∃ fault, store.makeFolder path = .error fault ∧ fault ≠ .fileMissing)
          ∧ store.isFolderAt path
          ∧ store = made := by
  rw [ensureFolder]
  split
  · next known => simp [known]
  · next missing => simp [missing]
  · next fault other failed =>
      rw [failed, Prod.mk.injEq, checkFolder_eq_ok_iff]
      constructor
      · rintro ⟨rfl, there⟩
        exact Or.inr ⟨⟨fault, rfl, other⟩, there, rfl⟩
      · rintro (made | ⟨-, there, rfl⟩)
        · cases made
        · exact ⟨rfl, there⟩

/-- Making folders adds folders and leaves the rest of a store as it is. -/
theorem exists_withFolders_of_ensureFolder (store : FileStore) (path : Path)
    : ∃ more, (store.ensureFolder path).1 = store.withFolders more := by
  have same : ∃ more, store = store.withFolders more := ⟨[], by simp [withFolders]⟩
  rw [ensureFolder]
  split
  · next made h =>
      obtain ⟨place, -, -, -, rfl⟩ := makeFolder_eq_ok_iff.mp h
      exact ⟨[place], rfl⟩
  · exact same
  · exact same

/-- By induction on the folders above. -/
theorem exists_withFolders_of_makeFoldersUpTo (store : FileStore) (path : Path) (depth : Nat)
    : ∃ more, (store.makeFoldersUpTo path depth).1 = store.withFolders more := by
  induction depth generalizing path with
  | zero => exact ⟨[], by simp [makeFoldersUpTo, withFolders]⟩
  | succ depth ih =>
      rw [makeFoldersUpTo]
      split
      · obtain ⟨above, hfirst⟩ := ih path.parent
        split
        · next made h =>
            rw [h] at hfirst
            subst hfirst
            obtain ⟨more, hlast⟩ :=
              exists_withFolders_of_ensureFolder (store.withFolders above) path
            exact ⟨above ++ more, hlast.trans (by simp [withFolders])⟩
        · exact ⟨above, hfirst⟩
      · exact exists_withFolders_of_ensureFolder store path

end GridTable.FileStore
