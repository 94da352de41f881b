import GridTable.Proofs.Dataset.Sound
import GridTable.Proofs.Together

/-! Datasets that are the same but for the numbers in the cells of one variable, and what reading
from both answers: the same coordinates along all other dimensions, and values or failures for the
same cells.
-/

namespace GridTable

open Outcome

namespace Variable

/-- Variables that are the same, or that have a given name and differ at most in the numbers that
they hold. Both hold as many.
-/
inductive SameBut (field : String) : Variable → Variable → Prop where
  | kept (stored : Variable) : SameBut field stored stored
  | refilled {stored : Variable} (named : stored.name = field) {cells : Cells}
    {before after : Array Float} (held : stored.cells.doubles? = some before)
    (holds : cells.doubles? = some after) (size : after.size = before.size)
    : SameBut field stored { stored with cells }

namespace SameBut

variable {field : String} {stored other : Variable}

theorem name_eq (same : SameBut field stored other) : stored.name = other.name := by
  cases same <;> rfl

theorem axes_eq (same : SameBut field stored other) : stored.axes = other.axes := by
  cases same <;> rfl

theorem rank_eq (same : SameBut field stored other) : stored.rank = other.rank := by
  cases same <;> rfl

theorem isLabel_eq (same : SameBut field stored other) : stored.isLabel = other.isLabel := by
  cases same <;> rfl

theorem isCoordinate_eq (same : SameBut field stored other)
    : stored.isCoordinate = other.isCoordinate := by
  cases same <;> rfl

theorem holdsTexts_eq (same : SameBut field stored other)
    : stored.holdsTexts = other.holdsTexts := by
  cases same with
  | kept => rfl
  | refilled named held holds size => simp [holdsTexts, held, holds]

theorem placesFault?_eq (same : SameBut field stored other)
    : stored.placesFault? = other.placesFault? := by
  funext size indices
  rw [placesFault?, placesFault?, same.isLabel_eq, same.holdsTexts_eq]

/-- Both have a value at a place, or neither has. -/
theorem inBlock (same : SameBut field stored other) (offset : Nat)
    : Together (fun _ _ => True) (stored.inBlock offset) (other.inBlock offset) := by
  cases same with
  | kept => exact .refl (fun _ => trivial) _
  | @refilled named cells before after held holds size =>
      rw [inBlock_of_doubles? held, inBlock_of_doubles? holds]
      by_cases inside : offset < before.size
      · rw [Array.getElem?_eq_getElem inside, Array.getElem?_eq_getElem (size ▸ inside)]
        exact .ok trivial
      · rw [Array.getElem?_eq_none (Nat.not_lt.mp inside),
          Array.getElem?_eq_none (Nat.not_lt.mp (size ▸ inside))]
        exact .error _

end SameBut

end Variable

/-- What is found first in lists of entries that belong together, by induction on both. -/
theorem findSome?_eq_of_forall₂ {α β γ : Type} {related : α → β → Prop} {find : α → Option γ}
    {search : β → Option γ} (h : ∀ entry other, related entry other → find entry = search other)
    {entries : List α} {others : List β} (same : List.Forall₂ related entries others)
    : entries.findSome? find = others.findSome? search := by
  induction same with
  | nil => rfl
  | cons first _ ih => rw [List.findSome?_cons, List.findSome?_cons, h _ _ first, ih]

namespace Dataset

/-- Datasets that are the same but for the numbers in the cells of the variable of a name. -/
def SameBut (field : String) (first second : Dataset) : Prop :=
  List.Forall₂ (Variable.SameBut field) first.fields second.fields

namespace SameBut

variable {field : String} {first second : Dataset}

theorem variableNames_eq (same : SameBut field first second)
    : first.variableNames = second.variableNames := by
  have names : List.Forall₂ (fun stored other => stored.name = other.name) first.fields
      second.fields :=
    List.Forall₂.imp (fun _ _ => Variable.SameBut.name_eq) same
  rwa [← List.forall₂_map_right_iff, ← List.forall₂_map_left_iff, List.forall₂_eq_eq_eq]
    at names

/-- Both datasets have a variable of a name, or neither has. -/
theorem lookup? (same : SameBut field first second) (name : String)
    : (first.lookup? name = none ∧ second.lookup? name = none)
      ∨ ∃ stored other,
          first.lookup? name = some stored
          ∧ second.lookup? name = some other
          ∧ stored.SameBut field other := by
  rw [SameBut] at same
  rw [Dataset.lookup?, Dataset.lookup?]
  generalize first.fields = fields, second.fields = others at same ⊢
  induction same with
  | nil => exact Or.inl ⟨rfl, rfl⟩
  | @cons stored other _ _ hfirst _ ih =>
      rw [List.find?_cons, List.find?_cons, ← hfirst.name_eq]
      cases stored.name == name with
      | true => exact Or.inr ⟨stored, other, rfl, rfl, hfirst⟩
      | false => exact ih

theorem isPointsTaken_eq (same : SameBut field first second)
    : first.isPointsTaken = second.isPointsTaken := by
  rw [isPointsTaken, isPointsTaken]
  rcases same.lookup? pointsDimension with ⟨none, absent⟩ | ⟨stored, other, found, again, alike⟩
  · rw [none, absent]
  · rw [found, again, Option.any_some, Option.any_some, alike.isCoordinate_eq, alike.rank_eq]

theorem find (same : SameBut field first second) (name : String)
    : Together (Variable.SameBut field) (first.find name) (second.find name) := by
  rw [Dataset.find, Dataset.find, same.variableNames_eq]
  rcases same.lookup? name with ⟨none, absent⟩ | ⟨stored, other, found, again, alike⟩
  · rw [none, absent]
    exact .error _
  · rw [found, again]
    exact .ok alike

theorem axesOf_eq (same : SameBut field first second) : first.axesOf = second.axesOf := by
  funext name
  exact ((same.find name).bind fun stored other alike => .ok alike.axes_eq).eq

/-- Coordinates along other dimensions are the same; along that of the name of the variable both
datasets have some or fail with the same failure.
-/
theorem coordinate (same : SameBut field first second) (name : String)
    : Together (fun values others => name ≠ field → values = others) (first.coordinate name)
        (second.coordinate name) := by
  rcases same.lookup? name with ⟨none, absent⟩ | ⟨stored, other, found, again, alike⟩
  · rw [Dataset.coordinate, Dataset.coordinate, none, absent]
    exact .error _
  · cases alike with
    | kept =>
        rw [Dataset.coordinate, Dataset.coordinate, found, again]
        exact .refl (fun _ _ => rfl) _
    | refilled named held holds size =>
        have own : name = field := (mem_of_lookup? found).2.symm.trans named
        have alike := Variable.SameBut.refilled named held holds size
        by_cases one : stored.rank = 1
        · cases numeric : stored.element.isNumeric with
          | false =>
              simp only [Dataset.coordinate, found, again, ← alike.rank_eq, one, numeric]
              exact .error _
          | true =>
              simp only [Dataset.coordinate, found, again, ← alike.rank_eq, one, numeric, held,
                holds]
              exact .ok fun differs => absurd own differs
        · simp only [Dataset.coordinate, found, again, ← alike.rank_eq, ne_eq, one,
            not_false_eq_true, if_true]
          exact .error _

theorem attached (same : SameBut field first second) {stored other : Variable}
    (alike : stored.SameBut field other)
    : List.Forall₂ (Variable.SameBut field) (first.attached stored) (second.attached other) := by
  refine List.rel_filter (fun entry own alikeEntry => ?_) same
  simp only [alikeEntry.isCoordinate_eq, alikeEntry.isLabel_eq, alikeEntry.axes_eq, alike.axes_eq]

/-- Cells that are not found are not found for one reason. -/
theorem cellsFault_eq (same : SameBut field first second) {stored other : Variable}
    (alike : stored.SameBut field other) (vectors : List (String × List Int))
    : first.cellsFault stored vectors = second.cellsFault other vectors := by
  have attached := same.attached alike
  have labelled {entry own : Variable} (alikeEntry : entry.SameBut field own)
      : (entry.isLabel && entry.name == pointsDimension)
        = (own.isLabel && own.name == pointsDimension) := by
    rw [alikeEntry.isLabel_eq, alikeEntry.name_eq]
  have ordered := List.rel_append
    (List.rel_filter (fun _ _ h => iff_of_eq (congrArg (· = true) (labelled h))) attached)
    (List.rel_filter (fun _ _ h => iff_of_eq (congrArg (fun b => (!b) = true) (labelled h)))
      attached)
  have reason {entry own : Variable} (alikeEntry : entry.SameBut field own)
      : (entry.axes.findSome? fun axis =>
          entry.placesFault? axis.size ((Keyed.find? axis.name vectors).getD []))
        = own.axes.findSome? fun axis =>
            own.placesFault? axis.size ((Keyed.find? axis.name vectors).getD []) := by
    rw [alikeEntry.axes_eq, alikeEntry.placesFault?_eq]
  have found := findSome?_eq_of_forall₂ (fun _ _ alikeEntry => reason alikeEntry) ordered
  simp only [cellsFault, List.partition_eq_filter_filter]
  exact congrArg (fun fault? => fault?.getD .badIndex) found

/-- The same cells of each variable have values in both datasets, whether they are read at once or
fail.
-/
theorem points (same : SameBut field first second) (name : String) (cells : List CellIndex)
    : Together (fun values others => values.length = others.length) (first.points name cells)
        (second.points name cells) := by
  have readable : Together (Variable.SameBut field) (first.findReadable name)
      (second.findReadable name) := by
    refine (same.find name).bind fun stored other alike => ?_
    rw [alike.rank_eq]
    exact (Together.refl (fun _ => rfl) _).bind fun _ _ _ => .ok alike
  refine readable.bind fun stored other alike => ?_
  simp only [alike.rank_eq, alike.axes_eq, same.cellsFault_eq alike, same.isPointsTaken_eq]
  split
  · exact .error _
  · split
    · exact .error _
    · split
      · exact .error _
      · refine (Together.mapM fun offset _ => alike.inBlock offset).imp fun _ _ each => ?_
        exact each.length_eq

end SameBut

end Dataset

end GridTable
