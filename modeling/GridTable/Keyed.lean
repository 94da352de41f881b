/-! Lists of named values.
A name stands in one place, that of its first assignment; a later assignment replaces the value
there.
-/

namespace GridTable.Keyed

variable {α : Type}

/-- The value of a name. -/
def find? (name : String) : List (String × α) → Option α
  | [] => none
  | (key, value) :: rest => if key = name then some value else find? name rest

/-- Gives `name` a value: a name that is there keeps its place, a new one goes to the end. -/
def assign (name : String) (value : α) : List (String × α) → List (String × α)
  | [] => [(name, value)]
  | (key, old) :: rest =>
      if key = name then (key, value) :: rest else (key, old) :: assign name value rest

/-- The entries of a list assigned one after the other, so that of one name the last one
counts.
-/
def collect (entries : List (String × α)) : List (String × α) :=
  entries.foldl (fun known entry => assign entry.1 entry.2 known) []

def names (entries : List (String × α)) : List String :=
  entries.map Prod.fst

theorem find?_assign_self (name : String) (value : α) (entries : List (String × α))
    : find? name (assign name value entries) = some value := by
  induction entries with
  | nil => simp [assign, find?]
  | cons entry rest ih =>
      by_cases h : entry.1 = name <;> simp [assign, find?, h, ih]

theorem find?_assign_of_ne {name other : String} (h : name ≠ other) (value : α)
    (entries : List (String × α))
    : find? other (assign name value entries) = find? other entries := by
  induction entries with
  | nil => simp [assign, find?, h]
  | cons entry rest ih =>
      by_cases hk : entry.1 = name
      · simp [assign, find?, hk, h]
      · simp [assign, find?, hk, ih]

/-- No assignment moves a name that is there. -/
theorem names_assign (name : String) (value : α) (entries : List (String × α))
    : names (assign name value entries)
      = if name ∈ names entries then names entries else names entries ++ [name] := by
  induction entries with
  | nil => simp [assign, names]
  | cons entry rest ih =>
      rcases entry with ⟨key, old⟩
      by_cases h : key = name
      · simp [assign, names, h]
      · have hne : name ≠ key := fun e => h e.symm
        simp only [names] at ih
        by_cases hm : name ∈ rest.map Prod.fst <;> simp [assign, names, h, hne, ih, hm]

end GridTable.Keyed
