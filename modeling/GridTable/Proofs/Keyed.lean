import GridTable.Keyed
import Mathlib.Data.List.Induction

/-! Lists of named values that were collected entry by entry, and where their names differ.
-/

namespace GridTable.Keyed

variable {α : Type}

theorem isSome_find?_iff {name : String} {entries : List (String × α)}
    : (find? name entries).isSome ↔ name ∈ names entries := by
  induction entries with
  | nil => simp [find?, names]
  | cons entry rest ih =>
      simp only [names, List.map_cons, List.mem_cons] at ih ⊢
      by_cases h : entry.1 = name
      · simp [find?, h]
      · simp [find?, h, ih, Ne.symm h]

/-- Entries with other names make no difference, by list induction. -/
theorem find?_append_of_notMem {name : String} {before : List (String × α)}
    (absent : name ∉ names before) (after : List (String × α))
    : find? name (before ++ after) = find? name after := by
  induction before with
  | nil => rfl
  | cons entry rest ih =>
      simp only [names, List.map_cons, List.mem_cons, not_or] at absent ih
      rw [List.cons_append, find?, if_neg (Ne.symm absent.1), ih absent.2]

/-- Of entries with different names each is found by its own, by list induction. -/
theorem find?_of_mem {entries : List (String × α)} (hd : (names entries).Nodup)
    {name : String} {value : α} (hm : (name, value) ∈ entries)
    : find? name entries = some value := by
  induction entries with
  | nil => simp at hm
  | cons entry rest ih =>
      obtain ⟨hfresh, hrest⟩ := List.nodup_cons.mp hd
      rcases List.mem_cons.mp hm with rfl | hm
      · simp [find?]
      · have hne : entry.1 ≠ name := fun he =>
          hfresh (he ▸ List.mem_map_of_mem (f := Prod.fst) hm)
        simp [find?, hne, ih hrest hm]

theorem mem_of_find? {name : String} {value : α} {entries : List (String × α)}
    (h : find? name entries = some value)
    : (name, value) ∈ entries := by
  induction entries with
  | nil => simp [find?] at h
  | cons entry rest ih =>
      rw [find?] at h
      split at h
      · next same =>
          obtain rfl := Option.some.inj h
          exact same ▸ List.mem_cons_self
      · exact List.mem_cons_of_mem _ (ih h)

theorem mem_of_mem_assign {name : String} {value : α} {entries : List (String × α)}
    {entry : String × α} (h : entry ∈ assign name value entries)
    : entry = (name, value) ∨ entry ∈ entries := by
  induction entries with
  | nil => exact Or.inl (List.mem_singleton.mp h)
  | cons first rest ih =>
      rw [assign] at h
      split at h
      · next same =>
          rcases List.mem_cons.mp h with rfl | h
          · exact Or.inl (same ▸ rfl)
          · exact Or.inr (List.mem_cons_of_mem _ h)
      · rcases List.mem_cons.mp h with rfl | h
        · exact Or.inr List.mem_cons_self
        · exact (ih h).imp_right (List.mem_cons_of_mem _)

theorem mem_names_assign {name other : String} (value : α) {entries : List (String × α)}
    : other ∈ names (assign name value entries) ↔ other ∈ names entries ∨ other = name := by
  rw [names_assign]
  split
  · next hm => exact ⟨Or.inl, fun h => h.elim id fun he => he ▸ hm⟩
  · simp

theorem assign_of_notMem {name : String} (value : α) {entries : List (String × α)}
    (h : name ∉ names entries)
    : assign name value entries = entries ++ [(name, value)] := by
  induction entries with
  | nil => rfl
  | cons entry rest ih =>
      simp only [names, List.map_cons, List.mem_cons, not_or] at h ih
      simp [assign, Ne.symm h.1, ih h.2]

theorem collect_concat (entries : List (String × α)) (entry : String × α)
    : collect (entries ++ [entry]) = assign entry.1 entry.2 (collect entries) := by
  simp [collect]

theorem find?_map {β : Type} (change : α → β) (name : String) (entries : List (String × α))
    : find? name (entries.map (Prod.map id change)) = (find? name entries).map change := by
  induction entries with
  | nil => rfl
  | cons entry rest ih =>
      by_cases h : entry.1 = name
      · simp [find?, h]
      · simp [find?, h, ih]

theorem assign_map {β : Type} (change : α → β) (name : String) (value : α)
    (entries : List (String × α))
    : assign name (change value) (entries.map (Prod.map id change))
      = (assign name value entries).map (Prod.map id change) := by
  induction entries with
  | nil => rfl
  | cons entry rest ih =>
      obtain ⟨key, old⟩ := entry
      by_cases h : key = name
      · simp [assign, h]
      · simp [assign, h, ih]

/-- Changed values are collected like the values, by induction from the last entry. -/
theorem collect_map {β : Type} (change : α → β) (entries : List (String × α))
    : collect (entries.map (Prod.map id change))
      = (collect entries).map (Prod.map id change) := by
  induction entries using List.reverseRecOn with
  | nil => rfl
  | append_singleton rest entry ih =>
      rw [List.map_append, List.map_singleton, collect_concat, collect_concat, ih]
      exact assign_map change entry.1 entry.2 _

/-- What is collected was assigned, by induction from the last entry. -/
theorem mem_of_mem_collect {entries : List (String × α)} {entry : String × α}
    (h : entry ∈ collect entries)
    : entry ∈ entries := by
  induction entries using List.reverseRecOn with
  | nil => exact h
  | append_singleton rest last ih =>
      rw [collect_concat] at h
      rcases mem_of_mem_assign h with rfl | h
      · simp
      · exact List.mem_append_left _ (ih h)

/-- Collecting drops no name and makes none, by induction from the last entry. -/
theorem mem_names_collect {name : String} {entries : List (String × α)}
    : name ∈ names (collect entries) ↔ name ∈ names entries := by
  induction entries using List.reverseRecOn with
  | nil => rfl
  | append_singleton rest entry ih =>
      rw [collect_concat, mem_names_assign, ih]
      simp [names]

/-- A name that was assigned is found with one of its values. -/
theorem exists_find?_collect {name : String} {entries : List (String × α)}
    (h : name ∈ names entries)
    : ∃ value, find? name (collect entries) = some value ∧ (name, value) ∈ entries := by
  obtain ⟨value, found⟩ := Option.isSome_iff_exists.mp
    (isSome_find?_iff.mpr (mem_names_collect.mpr h))
  exact ⟨value, found, mem_of_mem_collect (mem_of_find? found)⟩

/-- Entries with different names are collected as they are, by the same induction. -/
theorem collect_of_nodup {entries : List (String × α)} (hd : (names entries).Nodup)
    : collect entries = entries := by
  induction entries using List.reverseRecOn with
  | nil => rfl
  | append_singleton rest entry ih =>
      have hd : (names rest ++ [entry.1]).Nodup := by simpa [names] using hd
      obtain ⟨hrest, -, hfresh⟩ := List.nodup_append.mp hd
      rw [collect_concat, ih hrest]
      exact assign_of_notMem entry.2 fun hm => hfresh _ hm _ (by simp) rfl

/-- Values that were assigned to different names are found in their order. -/
theorem find?_collect_zip {keys : List String} (hd : keys.Nodup) {values : List α}
    (hl : values.length = keys.length) {position : Nat} (hk : position < keys.length)
    (hv : position < values.length)
    : find? keys[position] (collect (keys.zip values)) = some values[position] := by
  have named : names (keys.zip values) = keys := List.map_fst_zip (by simp [hl])
  have hd : (names (keys.zip values)).Nodup := by rwa [named]
  have inside : position < (keys.zip values).length := by
    rw [List.length_zip]
    omega
  have entry : (keys[position], values[position]) ∈ keys.zip values :=
    List.mem_iff_getElem.mpr ⟨position, inside, by simp⟩
  rw [collect_of_nodup hd, find?_of_mem hd entry]

end GridTable.Keyed
