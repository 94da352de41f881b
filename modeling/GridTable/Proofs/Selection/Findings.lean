import GridTable.Proofs.Grid
import GridTable.Proofs.Keyed
import GridTable.Proofs.Outcome
import GridTable.Selection

/-! What a finding says of a cell, and when it can be folded into a selection.
Folding is a total step for the findings that apply, and fails for all others.
-/

namespace GridTable

namespace Finding

/-- Whether a finding fixes several dimensions at once. -/
def isJoint : Finding → Bool
  | pairs .. | triplets .. => true
  | single .. | unsupported .. => false

/-- The groups of indices that a finding lists, in its own order. -/
def groups : Finding → List (List Int)
  | single _ indices => indices.toList.map fun index => [index]
  | pairs _ _ items => items.map fun (i, j) => [i, j]
  | triplets _ _ _ items => items.map fun (i, j, k) => [i, j, k]
  | unsupported _ => []

/-- A finding keeps a cell whose entries along its dimensions are among what it lists. -/
def Keeps (dimensions : List String) (cell : CellIndex) : Finding → Prop
  | single name indices => entryAlong dimensions cell name ∈ indices
  | pairs first second items =>
      (entryAlong dimensions cell first, entryAlong dimensions cell second) ∈ items
  | triplets first second third items =>
      (
        entryAlong dimensions cell first, entryAlong dimensions cell second,
        entryAlong dimensions cell third
      ) ∈ items
  | unsupported _ => False

instance {set : IndexSet} {index : Int} : Decidable (index ∈ set) :=
  inferInstanceAs (Decidable (index ∈ set.toList))

instance decidableKeeps (dimensions : List String) (cell : CellIndex)
    : DecidablePred (Finding.Keeps dimensions cell)
  | single name indices =>
      inferInstanceAs (Decidable (entryAlong dimensions cell name ∈ indices))
  | pairs first second items =>
      inferInstanceAs (Decidable
        ((entryAlong dimensions cell first, entryAlong dimensions cell second) ∈ items))
  | triplets first second third items =>
      inferInstanceAs (Decidable
        ((entryAlong dimensions cell first, entryAlong dimensions cell second,
          entryAlong dimensions cell third) ∈ items))
  | unsupported _ => inferInstanceAs (Decidable False)

/-- A finding applies to some dimensions if it is one at all and they have all of its own. -/
structure AppliesTo (dimensions : List String) (finding : Finding) : Prop where
  supported : ∀ kind, finding ≠ .unsupported kind
  known : ∀ name ∈ finding.dimensions, name ∈ dimensions

instance decidableAppliesTo (dimensions : List String)
    : DecidablePred (Finding.AppliesTo dimensions)
  | single name indices =>
      decidable_of_iff (∀ other ∈ (single name indices).dimensions, other ∈ dimensions)
        ⟨fun h => ⟨nofun, h⟩, AppliesTo.known⟩
  | pairs first second items =>
      decidable_of_iff (∀ other ∈ (pairs first second items).dimensions, other ∈ dimensions)
        ⟨fun h => ⟨nofun, h⟩, AppliesTo.known⟩
  | triplets first second third items =>
      decidable_of_iff
        (∀ other ∈ (triplets first second third items).dimensions, other ∈ dimensions)
        ⟨fun h => ⟨nofun, h⟩, AppliesTo.known⟩
  | unsupported kind => isFalse fun h => h.supported kind rfl

/-- A finding keeps a cell just if the entries along its dimensions form one of its groups. -/
theorem keeps_iff_mem_groups {dimensions : List String} {cell : CellIndex} {finding : Finding}
    : finding.Keeps dimensions cell
      ↔ finding.dimensions.map (entryAlong dimensions cell) ∈ finding.groups := by
  cases finding <;> simp [Keeps, groups, Finding.dimensions, IndexSet.mem_def]

theorem length_of_mem_groups {finding : Finding} {group : List Int}
    (h : group ∈ finding.groups)
    : group.length = finding.dimensions.length := by
  cases finding with
  | unsupported kind => simp [groups] at h
  | single name indices | pairs first second items | triplets first second third items =>
      obtain ⟨entry, -, rfl⟩ := List.mem_map.mp h
      rfl

/-- A finding that applies is along one dimension or over several ones. -/
theorem AppliesTo.single_or_isJoint {dimensions : List String} {finding : Finding}
    (applies : finding.AppliesTo dimensions)
    : (∃ name indices, finding = single name indices) ∨ finding.isJoint := by
  cases finding with
  | single name indices => exact Or.inl ⟨name, indices, rfl⟩
  | pairs first second items => exact Or.inr rfl
  | triplets first second third items => exact Or.inr rfl
  | unsupported kind => exact absurd rfl (applies.supported kind)

end Finding

namespace Selection

/-- The selection with fewer candidates along one dimension. -/
def withIndices (selection : Selection) (name : String) (indices : IndexSet) : Selection where
  dimensions := selection.dimensions
  candidates :=
    Keyed.assign name ((selection.candidatesOf name).inter indices) selection.candidates
  explicit := selection.explicit

/-- The selection with its cells spelled out, or fewer of those that are. -/
def withGroups (selection : Selection) (names : List String) (groups : List (List Int))
    : Selection where
  dimensions := selection.dimensions
  candidates := selection.candidates
  explicit :=
    let cells := selection.expand (names.map selection.dimensions.idxOf) groups
    some (selection.explicit.elim cells fun stored => keepCommon stored cells)

/-- The selection after a finding that applies. -/
def folded (selection : Selection) : Finding → Selection
  | .single name indices => selection.withIndices name indices
  | finding => selection.withGroups finding.dimensions finding.groups

theorem explicit_withGroups_of_none {selection : Selection} (h : selection.explicit = none)
    (names : List String) (groups : List (List Int))
    : (selection.withGroups names groups).explicit
      = some (selection.expand (names.map selection.dimensions.idxOf) groups) := by
  simp [withGroups, h]

theorem explicit_withGroups_of_some {selection : Selection} {stored : List CellIndex}
    (h : selection.explicit = some stored) (names : List String) (groups : List (List Int))
    : (selection.withGroups names groups).explicit
      = some
          (keepCommon stored
            (selection.expand (names.map selection.dimensions.idxOf) groups)) := by
  simp [withGroups, h]

theorem folded_of_isJoint (selection : Selection) {finding : Finding} (h : finding.isJoint)
    : selection.folded finding
      = selection.withGroups finding.dimensions finding.groups := by
  cases finding with
  | single name indices => simp [Finding.isJoint] at h
  | pairs first second items => rfl
  | triplets first second third items => rfl
  | unsupported kind => rfl

@[simp] theorem dimensions_withIndices (selection : Selection) (name : String)
    (indices : IndexSet)
    : (selection.withIndices name indices).dimensions = selection.dimensions :=
  rfl

@[simp] theorem dimensions_folded (selection : Selection) (finding : Finding)
    : (selection.folded finding).dimensions = selection.dimensions := by
  cases finding <;> rfl

theorem positionOf_eq_ok_iff {selection : Selection} {name : String} {position : Nat}
    : selection.positionOf name = .ok position
      ↔ name ∈ selection.dimensions ∧ selection.dimensions.idxOf name = position := by
  rw [positionOf, List.idxOf_eq_getD_idxOf?]
  cases h : selection.dimensions.idxOf? name with
  | none =>
      have habsent := List.idxOf?_eq_none_iff.mp h
      simp [habsent]
  | some found =>
      have hknown : name ∈ selection.dimensions := List.isSome_idxOf?.mp (by simp [h])
      simp [hknown, pure, Except.pure]

/-- All positions are found just if all dimensions are known. -/
theorem mapM_positionOf_eq_ok_iff {selection : Selection} {names : List String}
    {fixed : List Nat}
    : names.mapM selection.positionOf = .ok fixed
      ↔ (∀ name ∈ names, name ∈ selection.dimensions)
        ∧ names.map selection.dimensions.idxOf = fixed := by
  simp only [Outcome.mapM_eq_ok_iff, positionOf_eq_ok_iff]
  rw [List.forall₂_and_left]
  refine and_congr_right fun _ => ?_
  rw [← List.forall₂_map_left_iff (f := selection.dimensions.idxOf), List.forall₂_eq_eq_eq]

theorem fix_eq_ok_iff {selection next : Selection} {names : List String}
    {groups : List (List Int)}
    : selection.fix names groups = .ok next
      ↔ (∀ name ∈ names, name ∈ selection.dimensions)
        ∧ selection.withGroups names groups = next := by
  simp only [fix, Outcome.bind_eq_ok_iff, mapM_positionOf_eq_ok_iff, Outcome.pure_eq_ok_iff]
  constructor
  · rintro ⟨fixed, ⟨known, rfl⟩, rfl⟩
    refine ⟨known, ?_⟩
    cases he : selection.explicit <;> simp [withGroups, he]
  · rintro ⟨known, rfl⟩
    refine ⟨_, ⟨known, rfl⟩, ?_⟩
    cases he : selection.explicit <;> simp [withGroups, he]

/-- A selection has candidates for its dimensions and nothing else, and the cells that it
spells out are whole.
-/
structure Valid (selection : Selection) : Prop where
  known : ∀ name, (selection.candidates? name).isSome ↔ name ∈ selection.dimensions
  whole : ∀ cells, selection.explicit = some cells →
    ∀ cell ∈ cells, cell.length = selection.dimensions.length

/-- Folding succeeds just for the findings that apply, and says what comes of it. -/
theorem fold_eq_ok_iff {selection next : Selection} (valid : selection.Valid)
    {finding : Finding}
    : selection.fold finding = .ok next
      ↔ finding.AppliesTo selection.dimensions ∧ selection.folded finding = next := by
  have joint (hs : ∀ kind, finding ≠ .unsupported kind) (names : List String)
      (hn : finding.dimensions = names)
      : finding.AppliesTo selection.dimensions
        ↔ ∀ name ∈ names, name ∈ selection.dimensions :=
    hn ▸ ⟨fun h => h.known, fun h => ⟨hs, h⟩⟩
  cases finding with
  | single name indices =>
      rw [joint nofun [name] rfl, List.forall_mem_singleton, ← valid.known name]
      rw [fold, narrow, folded, withIndices, candidatesOf]
      cases h : selection.candidates? name with
      | none => simp
      | some current => simp [pure, Except.pure]
  | pairs first second items =>
      rw [joint nofun [first, second] rfl]
      exact fix_eq_ok_iff
  | triplets first second third items =>
      rw [joint nofun [first, second, third] rfl]
      exact fix_eq_ok_iff
  | unsupported kind =>
      have hnot : ¬(Finding.unsupported kind).AppliesTo selection.dimensions :=
        fun h => h.supported kind rfl
      simp [fold, raiseFault, hnot]

end Selection

end GridTable
