import GridTable.Proofs.FileStore.Walks

/-! Making folders. A path to folders that were made leads to one that was there before, or else to
one at or below a place at which there was nothing, as long as it does not step back by double dots.
Hence a file that is put into such a folder takes the place of no other file.
-/

namespace GridTable

/-- A path is made of that to the folder above and a last name, unless it has no names. -/
theorem Path.bare_or_named (path : Path)
    : path.components = [] ∨ ∃ name, path.components = path.parent.components ++ [name] := by
  by_cases bare : path.components = []
  · exact Or.inl bare
  · exact Or.inr ⟨_, (List.dropLast_concat_getLast bare).symm⟩

theorem Path.parent_of_bare {path : Path} (bare : path.components = []) : path.parent = path := by
  rw [Path.parent, bare]
  exact congrArg (Path.mk path.root) bare.symm

theorem Path.not_mem_parent {path : Path} {name : String} (straight : name ∉ path.components)
    : name ∉ path.parent.components :=
  fun hm => straight (List.dropLast_subset _ hm)

namespace FileStore

variable {store made : FileStore} {path : Path} {place above fresh : Place} {depth : Nat}

-----------------------------------------------------------------------------------------
-- Last names
-----------------------------------------------------------------------------------------

theorem site_eq_ok_iff_of_name {name : String}
    (named : path.components = path.parent.components ++ [name])
    : store.site path = .ok place
      ↔ checkPath path = .ok ()
        ∧ ∃ above remaining,
            store.walk linkLimit (store.start path) path.parent.components
              = .ok (above, remaining)
            ∧ store.step above name = .ok place := by
  have last : path.components.getLast? = some name := by
    rw [named, List.getLast?_concat]
  have upper : path.components.dropLast = path.parent.components := rfl
  simp only [site, last, upper, Outcome.bind_eq_ok_iff, Prod.exists]
  constructor
  · rintro ⟨⟨⟩, usable, above, remaining, walked, stepped⟩
    exact ⟨usable, above, remaining, walked, stepped⟩
  · rintro ⟨usable, above, remaining, walked, stepped⟩
    exact ⟨(), usable, above, remaining, walked, stepped⟩

theorem site_eq_ok_iff_of_bare (bare : path.components = [])
    : store.site path = .ok place ↔ checkPath path = .ok () ∧ store.start path = place := by
  have last : path.components.getLast? = none := by
    rw [bare, List.getLast?_nil]
  simp only [site, last, Outcome.bind_eq_ok_iff, Outcome.pure_eq_ok_iff]
  exact ⟨fun ⟨⟨⟩, usable, same⟩ => ⟨usable, same⟩, fun ⟨usable, same⟩ => ⟨(), usable, same⟩⟩

/-- Where the last name of a path names no link, the path leads to the place of the name. -/
theorem place_of_site (h : store.site path = .ok place) (plain : store.link? place = none)
    : store.place path = .ok place := by
  rcases path.bare_or_named with bare | ⟨name, named⟩
  · obtain ⟨usable, rfl⟩ := (site_eq_ok_iff_of_bare bare).mp h
    exact place_eq_ok_iff.mpr ⟨usable, linkLimit, bare ▸ walk_nil⟩
  · obtain ⟨usable, above, remaining, walked, stepped⟩ := (site_eq_ok_iff_of_name named).mp h
    refine place_eq_ok_iff.mpr ⟨usable, remaining, ?_⟩
    rw [named]
    exact walk_concat_eq_ok_iff.mpr
      ⟨above, remaining, walked, walk_singleton_of_link?_eq_none stepped plain⟩

/-- A path that leads somewhere has a place for its last name. -/
theorem exists_site_of_place (h : store.place path = .ok place)
    : ∃ named, store.site path = .ok named ∧ (store.link? named = none → named = place) := by
  obtain ⟨usable, remaining, walked⟩ := place_eq_ok_iff.mp h
  rcases path.bare_or_named with bare | ⟨name, named⟩
  · rw [bare, walk_nil] at walked
    cases walked
    exact ⟨_, (site_eq_ok_iff_of_bare bare).mpr ⟨usable, rfl⟩, fun _ => rfl⟩
  · rw [named] at walked
    obtain ⟨above, before, upper, walked⟩ := walk_concat_eq_ok_iff.mp walked
    obtain ⟨next, stepped⟩ := exists_step_of_walk_singleton walked
    refine ⟨next, (site_eq_ok_iff_of_name named).mpr ⟨usable, above, before, upper, stepped⟩, ?_⟩
    intro plain
    cases walked.symm.trans (walk_singleton_of_link?_eq_none stepped plain)
    rfl

theorem Extends.names {other : FileStore} (more : store.Extends other)
    (h : store.site path = .ok place)
    : other.site path = .ok place := by
  rcases path.bare_or_named with bare | ⟨name, named⟩
  · rw [site_eq_ok_iff_of_bare bare, more.start_eq]
    exact (site_eq_ok_iff_of_bare bare).mp h
  · obtain ⟨usable, above, remaining, walked, stepped⟩ := (site_eq_ok_iff_of_name named).mp h
    refine (site_eq_ok_iff_of_name named).mpr ⟨usable, above, remaining, ?_, more.step stepped⟩
    exact more.start_eq path ▸ more.walk walked

-----------------------------------------------------------------------------------------
-- Folders that are made
-----------------------------------------------------------------------------------------

/-- A folder that was made stands at a vacant place, to which its path leads from then on. -/
theorem exists_vacant_of_makeFolder (h : store.makeFolder path = .ok made)
    : ∃ place, store.IsVacant place ∧ made.place path = .ok place ∧ made.isFolderAt path := by
  obtain ⟨place, named, vacant, -, rfl⟩ := makeFolder_eq_ok_iff.mp h
  have leads : (store.withFolders [place]).place path = .ok place :=
    place_of_site ((extends_withFolders store [place]).names named) vacant.link
  have isFolder : (store.withFolders [place]).isFolder place :=
    isFolder_iff.mpr (Or.inl ⟨place, by simp [withFolders], List.prefix_rfl⟩)
  have folder : (store.withFolders [place]).occupant? place = some .folder :=
    occupant?_eq_folder_iff.mpr ⟨(occupant?_eq_none_iff.mp vacant.entry).1, isFolder⟩
  exact ⟨place, vacant, leads, isFolderAt_iff.mpr (find_eq_ok_iff.mpr ⟨place, leads, folder⟩)⟩

theorem isFolderAt_of_ensureFolder (h : store.ensureFolder path = (made, .ok ()))
    : made.isFolderAt path := by
  rcases ensureFolder_eq_ok_iff.mp h with first | ⟨-, there, rfl⟩
  · obtain ⟨place, -, -, folder⟩ := exists_vacant_of_makeFolder first
    exact folder
  · exact there

/-- A folder that is there need not be made. -/
theorem ensureFolder_of_isFolderAt (h : store.isFolderAt path)
    : store.ensureFolder path = (store, .ok ()) := by
  obtain ⟨place, leads, folder⟩ := find_eq_ok_iff.mp (isFolderAt_iff.mp h)
  obtain ⟨named, site, own⟩ := exists_site_of_place leads
  have taken : (store.link? named).isSome || (store.occupant? named).isSome := by
    cases link : store.link? named with
    | some target => rfl
    | none => simp [own link, folder]
  have refused : store.makeFolder path = .error .fileExists := by
    rw [makeFolder, site, Outcome.ok_bind, if_pos taken]
  exact ensureFolder_eq_ok_iff.mpr (Or.inr ⟨⟨_, refused, by decide⟩, h, rfl⟩)

theorem makeFolders_of_isFolderAt (h : store.isFolderAt path)
    : store.makeFolders path = (store, .ok ()) := by
  rw [makeFolders, makeFoldersUpTo, ensureFolder_of_isFolderAt h]

-----------------------------------------------------------------------------------------
-- Where paths lead to
-----------------------------------------------------------------------------------------

/-- A path leads straight down from the folder above, if there was nothing at or above that folder
once. No link is in the way.
-/
theorem prefix_of_place (straight : ".." ∉ path.components) (vacant : store.IsVacant fresh)
    (links : made.links = store.links) (upper : made.place path.parent = .ok above)
    (below : fresh <+: above) (leads : made.place path = .ok place)
    : fresh <+: place := by
  rcases path.bare_or_named with bare | ⟨name, named⟩
  · rw [Path.parent_of_bare bare, leads] at upper
    cases upper
    exact below
  · obtain ⟨-, last, walked⟩ := place_eq_ok_iff.mp leads
    obtain ⟨-, before, upper⟩ := place_eq_ok_iff.mp upper
    rw [named] at walked
    obtain ⟨middle, remaining, first, walked⟩ := walk_concat_eq_ok_iff.mp walked
    cases upper.symm.trans first
    obtain ⟨next, stepped⟩ := exists_step_of_walk_singleton walked
    obtain ⟨-, -, -, down⟩ := step_eq_ok_iff.mp stepped
    have forward : ¬(name == "..") := by
      rw [beq_iff_eq]
      rintro rfl
      exact straight (by simp [named])
    rw [if_neg forward] at down
    subst down
    have within : fresh <+: above ++ [name] := below.trans (List.prefix_append _ _)
    have plain : made.link? (above ++ [name]) = none := by
      rw [link?, links]
      exact (vacant.below within).2
    cases walked.symm.trans (walk_singleton_of_link?_eq_none stepped plain)
    exact within

/-- Folders that are said to be made were there, or there was nothing at a place at or above that
to which their path leads. By induction on the folders above.
-/
theorem made_of_makeFoldersUpTo (straight : ".." ∉ path.components)
    (h : store.makeFoldersUpTo path depth = (made, .ok ()))
    : made = store ∨ ∃ fresh place,
        store.IsVacant fresh ∧ fresh <+: place ∧ made.place path = .ok place := by
  induction depth generalizing path made with
  | zero => cases h
  | succ depth ih =>
      rw [makeFoldersUpTo] at h
      split at h
      · next same missing =>
          split at h
          · next upper run =>
              rcases ih (Path.not_mem_parent straight) run with rfl | ⟨fresh, above, old⟩
              · cases missing.symm.trans h
              · obtain ⟨vacant, below, leads⟩ := old
                obtain ⟨first, hfirst⟩ :=
                  exists_withFolders_of_makeFoldersUpTo store path.parent depth
                obtain ⟨last, hlast⟩ := exists_withFolders_of_ensureFolder upper path
                rw [run] at hfirst
                rw [h] at hlast
                subst hfirst hlast
                obtain ⟨place, found, -⟩ :=
                  find_eq_ok_iff.mp (isFolderAt_iff.mp (isFolderAt_of_ensureFolder h))
                have again := (extends_withFolders (store.withFolders first) last).leads leads
                have links : ((store.withFolders first).withFolders last).links = store.links := rfl
                have within := prefix_of_place straight vacant links again below found
                exact Or.inr ⟨fresh, place, vacant, within, found⟩
          · next stopped failed => exact absurd h (failed made)
      · rcases ensureFolder_eq_ok_iff.mp h with first | ⟨-, -, same⟩
        · obtain ⟨place, vacant, leads, -⟩ := exists_vacant_of_makeFolder first
          exact Or.inr ⟨place, place, vacant, List.prefix_rfl, leads⟩
        · exact Or.inl same.symm

/-- A path without double dots to which nothing was found leads to no file that was there, after the
folders above it were made.
-/
theorem content?_of_straight (straight : ".." ∉ path.components)
    (absent : store.exists? path = .ok false) (run : store.makeFolders path.parent = (made, .ok ()))
    (leads : made.place path = .ok place)
    : content? place store.files = none := by
  have unmoved (same : made = store) : content? place store.files = none := by
    rw [Option.eq_none_iff_forall_not_mem]
    intro content held
    exact not_found_of_exists? absent _
      (find_eq_ok_iff.mpr ⟨place, same ▸ leads, occupant?_eq_file_iff.mpr held⟩)
  rcases made_of_makeFoldersUpTo (Path.not_mem_parent straight) run with same
    | ⟨fresh, above, vacant, below, upper⟩
  · exact unmoved same
  · obtain ⟨more, hmade⟩ := exists_withFolders_of_makeFoldersUpTo store path.parent
      (path.parent.components.length + 1)
    rw [← makeFolders, run] at hmade
    subst hmade
    have links : (store.withFolders more).links = store.links := rfl
    exact (vacant.below (prefix_of_place straight vacant links upper below leads)).1

end FileStore

end GridTable
