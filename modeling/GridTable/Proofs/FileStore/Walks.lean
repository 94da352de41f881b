import GridTable.Proofs.FileStore.Contents

/-! Walks along paths. What is walked is walked again in stores with more folders or with one more
file: each step leads out of a folder that is still there, and the links are the same. A walk only
fails by the system or for an unusable value.
-/

namespace GridTable.FileStore

variable {store other : FileStore} {path : Path} {place last : Place} {name : String}
variable {names rest : List String} {left remaining : Nat}

-----------------------------------------------------------------------------------------
-- Steps
-----------------------------------------------------------------------------------------

/-- One step leads out of a folder that may be searched, by a name that is not too long. -/
theorem step_eq_ok_iff
    : store.step place name = .ok last
      ↔ store.occupant? place = some .folder
        ∧ ¬store.denied .search place
        ∧ ¬nameLimit < name.utf8ByteSize
        ∧ (if name == ".." then place.dropLast else place ++ [name]) = last := by
  rw [step]
  cases store.occupant? place with
  | none => simp
  | some entry =>
      cases entry with
      | file content => simp
      | folder =>
          by_cases denied : store.denied .search place
          · simp [denied]
          · by_cases long : nameLimit < name.utf8ByteSize <;> simp [denied, long]

/-- A store in which every step leads where it leads in another one, and all links too. -/
structure Extends (store other : FileStore) : Prop where
  step {place last : Place} {name : String} (h : store.step place name = .ok last)
    : other.step place name = .ok last
  links : other.links = store.links
  here : other.here = store.here

theorem Extends.start_eq (more : store.Extends other) (path : Path)
    : other.start path = store.start path := by
  rw [start, start, more.here]

theorem extends_of_folders
    (folders : ∀ place, store.occupant? place = some .folder → other.occupant? place = some .folder)
    (denied : other.denied = store.denied) (links : other.links = store.links)
    (here : other.here = store.here)
    : store.Extends other where
  step h := by
    obtain ⟨folder, allowed, short, next⟩ := step_eq_ok_iff.mp h
    exact step_eq_ok_iff.mpr ⟨folders _ folder, denied ▸ allowed, short, next⟩
  links := links
  here := here

theorem extends_withFolders (store : FileStore) (more : List Place)
    : store.Extends (store.withFolders more) := by
  refine extends_of_folders (fun place h => ?_) rfl rfl rfl
  obtain ⟨free, folder⟩ := occupant?_eq_folder_iff.mp h
  refine occupant?_eq_folder_iff.mpr ⟨free, isFolder_iff.mpr ?_⟩
  refine (isFolder_iff.mp folder).imp_left fun ⟨known, hm, below⟩ => ⟨known, ?_, below⟩
  exact List.cons_subset_cons _ (List.subset_append_left _ _) hm

/-- Folders stay folders, if nothing is put in their place. -/
theorem extends_put (content : Content) (free : store.occupant? place ≠ some .folder)
    : store.Extends (store.put place content) := by
  refine extends_of_folders (fun other h => ?_) rfl rfl rfl
  have apart : other ≠ place := fun same => free (same ▸ h)
  obtain ⟨vacant, folder⟩ := occupant?_eq_folder_iff.mp h
  refine occupant?_eq_folder_iff.mpr
    ⟨(content?_putContent_of_ne apart ..).trans vacant, isFolder_iff.mpr ?_⟩
  refine (isFolder_iff.mp folder).imp_right (Or.imp_left fun ⟨entry, hm, below⟩ => ?_)
  obtain ⟨kept, hk, same⟩ := exists_mem_putContent place content hm
  exact ⟨kept, hk, same ▸ below⟩

theorem occupant?_put_self (place : Place) (content : Content)
    : FileStore.occupant? (store.put place content) place = some (.file content) :=
  occupant?_eq_file_iff.mpr (content?_putContent_self place content store.files)

-----------------------------------------------------------------------------------------
-- Walks
-----------------------------------------------------------------------------------------

theorem walkOn_cons {follow : Place → List String → Except Fault (Place × Nat)}
    : store.walkOn left follow place (name :: rest)
      = (do
          let next ← store.step place name
          match store.link? next with
          | none => store.walkOn left follow next rest
          | some target => follow (store.start target) (target.components ++ rest)) :=
  rfl

/-- By induction on the names, for any way to follow links that is extended as well. -/
theorem Extends.walkOn (more : store.Extends other)
    {follow after : Place → List String → Except Fault (Place × Nat)}
    (goes : ∀ place names last, follow place names = .ok last → after place names = .ok last)
    {last : Place × Nat} (h : store.walkOn left follow place names = .ok last)
    : other.walkOn left after place names = .ok last := by
  induction names generalizing place with
  | nil => exact h
  | cons name rest ih =>
      rw [walkOn_cons, Outcome.bind_eq_ok_iff] at h ⊢
      obtain ⟨next, stepped, h⟩ := h
      have link : other.link? next = store.link? next := by
        rw [link?, link?, more.links]
      refine ⟨next, more.step stepped, ?_⟩
      rw [link]
      cases met : store.link? next with
      | none =>
          rw [met] at h
          exact ih h
      | some target =>
          rw [met] at h
          simpa only [more.start_eq] using goes _ _ _ h

theorem Extends.walk (more : store.Extends other) {last : Place × Nat}
    (h : store.walk left place names = .ok last)
    : other.walk left place names = .ok last := by
  induction left generalizing place names last with
  | zero => exact more.walkOn (fun _ _ _ gone => gone) h
  | succ left ih => exact more.walkOn (fun _ _ _ gone => ih gone) h

/-- A walk is made of steps, with some way to follow links. -/
theorem exists_walk_eq_walkOn (store : FileStore) (left : Nat)
    : ∃ follow, store.walk left = store.walkOn left follow := by
  cases left with
  | zero => exact ⟨_, rfl⟩
  | succ left => exact ⟨_, rfl⟩

theorem walk_nil : store.walk left place [] = .ok (place, left) := by
  obtain ⟨follow, own⟩ := store.exists_walk_eq_walkOn left
  rw [own]
  rfl

/-- If what follows links may be cut in two, so may a walk, by induction on the names. -/
theorem walkOn_append {follow : Place → List String → Except Fault (Place × Nat)}
    (own : store.walk left = store.walkOn left follow)
    (cut
      : ∀ place names,
          follow place (names ++ rest)
          = (do
              let (middle, remaining) ← follow place names
              store.walk remaining middle rest))
    : store.walkOn left follow place (names ++ rest)
      = (do
          let (middle, remaining) ← store.walkOn left follow place names
          store.walk remaining middle rest) := by
  induction names generalizing place with
  | nil =>
      rw [← own, walk_nil]
      rfl
  | cons name names ih =>
      rw [List.cons_append, walkOn_cons, walkOn_cons, bind_assoc]
      refine bind_congr fun next => ?_
      cases store.link? next with
      | none => exact ih
      | some target => rw [← cut, List.append_assoc]

/-- A walk down some names and then some more is two walks, by induction on the links left. -/
theorem walk_append (names rest : List String)
    : store.walk left place (names ++ rest)
      = (do
          let (middle, remaining) ← store.walk left place names
          store.walk remaining middle rest) := by
  induction left generalizing place names with
  | zero => exact walkOn_append rfl fun _ _ => rfl
  | succ left ih => exact walkOn_append rfl fun _ names => ih names

/-- A last step to no link ends a walk. -/
theorem walk_concat_eq_ok_iff
    : store.walk left place (names ++ [name]) = .ok (last, remaining)
      ↔ ∃ middle before,
          store.walk left place names = .ok (middle, before)
          ∧ store.walk before middle [name] = .ok (last, remaining) := by
  rw [walk_append, Outcome.bind_eq_ok_iff]
  simp

theorem walk_singleton_of_link?_eq_none (stepped : store.step place name = .ok last)
    (plain : store.link? last = none)
    : store.walk left place [name] = .ok (last, left) := by
  obtain ⟨follow, own⟩ := store.exists_walk_eq_walkOn left
  rw [own, walkOn_cons, stepped, Outcome.ok_bind, plain]
  rfl

theorem exists_step_of_walk_singleton
    (h : store.walk left place [name] = .ok (last, remaining))
    : ∃ next, store.step place name = .ok next := by
  obtain ⟨follow, own⟩ := store.exists_walk_eq_walkOn left
  rw [own, walkOn_cons, Outcome.bind_eq_ok_iff] at h
  obtain ⟨next, stepped, -⟩ := h
  exact ⟨next, stepped⟩

-----------------------------------------------------------------------------------------
-- Paths
-----------------------------------------------------------------------------------------

theorem place_eq_ok_iff
    : store.place path = .ok place
      ↔ checkPath path = .ok ()
        ∧ ∃ remaining,
            store.walk linkLimit (store.start path) path.components = .ok (place, remaining) := by
  simp only [FileStore.place, Outcome.bind_eq_ok_iff, Outcome.pure_eq_ok_iff, Prod.exists]
  constructor
  · rintro ⟨⟨⟩, usable, last, remaining, walked, rfl⟩
    exact ⟨usable, remaining, walked⟩
  · rintro ⟨usable, remaining, walked⟩
    exact ⟨(), usable, place, remaining, walked, rfl⟩

theorem checkPath_eq_ok (proper : ∀ name ∈ path.components, '\x00' ∉ name.toList)
    (short : path.text.utf8ByteSize ≤ pathLimit)
    : checkPath path = .ok () := by
  rw [checkPath, if_neg (by simpa using proper), if_neg (Nat.not_lt.mpr short)]

theorem place_eq_walk (proper : ∀ name ∈ path.components, '\x00' ∉ name.toList)
    (short : path.text.utf8ByteSize ≤ pathLimit)
    : store.place path
      = Prod.fst <$> store.walk linkLimit (store.start path) path.components := by
  rw [FileStore.place, checkPath_eq_ok proper short, Outcome.ok_bind]
  rfl

theorem Extends.leads (more : store.Extends other) (h : store.place path = .ok place)
    : other.place path = .ok place := by
  obtain ⟨usable, remaining, walked⟩ := place_eq_ok_iff.mp h
  exact place_eq_ok_iff.mpr ⟨usable, remaining, more.start_eq path ▸ more.walk walked⟩

/-- A file that is written is found by its path. -/
theorem find_put {path : Path} {place : Place} (content : Content)
    (free : store.occupant? place ≠ some .folder) (h : store.place path = .ok place)
    : (store.put place content).find path = .ok (.file content) :=
  find_eq_ok_iff.mpr ⟨place, (extends_put content free).leads h, occupant?_put_self place content⟩

-----------------------------------------------------------------------------------------
-- Faults
-----------------------------------------------------------------------------------------

/-- A search that only fails by the system or for an unusable value. -/
def IsSystematic {α : Type} (search : Except Fault α) : Prop :=
  ∀ fault, search = .error fault → fault.isOfSystemOrValue

theorem isSystematic_ok {α : Type} (answer : α) : IsSystematic (.ok answer) :=
  nofun

theorem isSystematic_error {α : Type} {fault : Fault} (h : fault.isOfSystemOrValue)
    : IsSystematic (.error fault : Except Fault α) := by
  rintro _ ⟨⟩
  exact h

theorem IsSystematic.bind {α β : Type} {first : Except Fault α} {next : α → Except Fault β}
    (begun : IsSystematic first) (continued : ∀ answer, IsSystematic (next answer))
    : IsSystematic (first >>= next) := by
  cases first with
  | ok answer => exact continued answer
  | error fault => exact isSystematic_error (begun fault rfl)

theorem IsSystematic.ite {α : Type} {condition : Prop} [Decidable condition]
    {search otherwise : Except Fault α} (whenTrue : IsSystematic search)
    (whenFalse : IsSystematic otherwise)
    : IsSystematic (if condition then search else otherwise) := by
  split
  · exact whenTrue
  · exact whenFalse

theorem isSystematic_step (store : FileStore) (place : Place) (name : String)
    : IsSystematic (store.step place name) := by
  rw [step]
  split
  · exact isSystematic_error rfl
  · exact isSystematic_error rfl
  · exact .ite (isSystematic_error rfl) (.ite (isSystematic_error rfl) (isSystematic_ok _))

theorem isSystematic_walkOn {follow : Place → List String → Except Fault (Place × Nat)}
    (follows : ∀ place names, IsSystematic (follow place names)) (place : Place)
    (names : List String)
    : IsSystematic (store.walkOn left follow place names) := by
  induction names generalizing place with
  | nil => exact isSystematic_ok _
  | cons name rest ih =>
      rw [walkOn_cons]
      refine (store.isSystematic_step place name).bind fun next => ?_
      cases store.link? next with
      | none => exact ih next
      | some target => exact follows _ _

theorem isSystematic_walk (store : FileStore) (left : Nat) (place : Place) (names : List String)
    : IsSystematic (store.walk left place names) := by
  induction left generalizing place names with
  | zero => exact isSystematic_walkOn (fun _ _ => isSystematic_error rfl) place names
  | succ left ih => exact isSystematic_walkOn ih place names

theorem isSystematic_place (store : FileStore) (path : Path)
    : IsSystematic (store.place path) := by
  have checked : IsSystematic (checkPath path) :=
    .ite (isSystematic_error rfl) (.ite (isSystematic_error rfl) (isSystematic_ok _))
  exact checked.bind fun _ => (store.isSystematic_walk _ _ _).bind fun _ => isSystematic_ok _

theorem isSystematic_find (store : FileStore) (path : Path)
    : IsSystematic (store.find path) := by
  refine (store.isSystematic_place path).bind fun place => ?_
  cases store.occupant? place with
  | none => exact isSystematic_error rfl
  | some entry => exact isSystematic_ok _

theorem isSystematic_lookup? (store : FileStore) (path : Path)
    : IsSystematic (store.lookup? path) := by
  have searched := store.isSystematic_find path
  rw [lookup?]
  cases found : store.find path with
  | ok entry => exact isSystematic_ok _
  | error fault => exact .ite (isSystematic_ok _) (isSystematic_error (searched fault found))

theorem isSystematic_checkFolder {fault : Fault} (own : fault.isOfSystemOrValue)
    (store : FileStore) (path : Path)
    : IsSystematic (store.checkFolder path fault) := by
  refine (store.isSystematic_lookup? path).bind fun found => ?_
  split
  · exact isSystematic_ok _
  · exact isSystematic_error own

theorem isSystematic_placeToWrite (store : FileStore) (path : Path)
    : IsSystematic (store.placeToWrite path) := by
  refine (store.isSystematic_place path).bind fun place => ?_
  split
  · exact isSystematic_error rfl
  · exact .ite (isSystematic_error rfl) (isSystematic_ok _)
  · exact .ite (isSystematic_error rfl) (isSystematic_ok _)

end GridTable.FileStore
