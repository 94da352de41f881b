import GridTable.Proofs.Selection.Runs
import Mathlib.Data.List.Sort

/-! In which order cells are enumerated: that of their indices, until a finding over several
dimensions sets its own. Findings after that one only drop cells.
-/

namespace GridTable.Selection

/-- The entries of a cell along all dimensions but some, in the order of the dimensions. -/
def otherEntries (dimensions names : List String) (cell : CellIndex) : List Int :=
  (dimensions.filter fun name => name ∉ names).map (entryAlong dimensions cell)

/-- The order of cells that the first finding over several dimensions sets: by the entries
along the other dimensions, then by the first place of the group that the cell has along
those of the finding. Without such a finding cells are in lexicographic order.
-/
def EnumerationOrder (dimensions : List String)
    : Option Finding → CellIndex → CellIndex → Prop
  | none => fun left right => left < right
  | some first =>
      GroupOrder (otherEntries dimensions first.dimensions)
        (fun cell => first.dimensions.map (entryAlong dimensions cell)) first.groups

theorem groupOrder_asymm {outer inner : CellIndex → List Int} {groups : List (List Int)}
    {left right : CellIndex} (h : GroupOrder outer inner groups left right)
    : ¬GroupOrder outer inner groups right left := by
  rintro (hlt | ⟨he, hlt⟩)
  · rcases h with h | ⟨he, -⟩
    · exact List.lt_asymm h hlt
    · exact List.lt_irrefl _ (he ▸ hlt)
  · rcases h with h | ⟨-, h⟩
    · exact List.lt_irrefl _ (he ▸ h)
    · omega

theorem enumerationOrder_asymm {dimensions : List String} {first : Option Finding}
    {left right : CellIndex} (h : EnumerationOrder dimensions first left right)
    : ¬EnumerationOrder dimensions first right left := by
  cases first with
  | none => exact List.lt_asymm h
  | some finding =>
      rw [EnumerationOrder] at h ⊢
      exact groupOrder_asymm h

-----------------------------------------------------------------------------------------
-- The order of an expansion by names
-----------------------------------------------------------------------------------------

theorem entriesAt_freePositions {selection : Selection} (hd : selection.dimensions.Nodup)
    {names : List String} (known : ∀ name ∈ names, name ∈ selection.dimensions)
    (cell : CellIndex)
    : entriesAt (selection.freePositions (names.map selection.dimensions.idxOf)) cell
      = otherEntries selection.dimensions names cell := by
  have fixed {position : Nat} (hp : position < selection.dimensions.length)
      : position ∈ names.map selection.dimensions.idxOf
        ↔ selection.dimensions.getD position "" ∈ names := by
    rw [List.getD_eq_getElem?_getD, List.getElem?_eq_getElem hp, Option.getD_some, List.mem_map]
    constructor
    · rintro ⟨name, hm, rfl⟩
      rwa [List.getElem_idxOf (List.idxOf_lt_length_of_mem (known name hm))]
    · exact fun hm => ⟨_, hm, hd.idxOf_getElem position hp⟩
  have listed : (List.range selection.dimensions.length).map
        (fun position => selection.dimensions.getD position "")
      = selection.dimensions :=
    List.ext_getElem (by simp) fun position _ hp => by simp [List.getD_eq_getElem?_getD, hp]
  have others : selection.dimensions.filter (fun name => name ∉ names)
      = (selection.freePositions (names.map selection.dimensions.idxOf)).map
          fun position => selection.dimensions.getD position "" := by
    conv_lhs => rw [← listed, List.filter_map]
    refine congrArg _ (List.filter_congr fun position hp => ?_)
    simp [fixed (List.mem_range.mp hp)]
  rw [otherEntries, others, List.map_map]
  refine List.map_congr_left fun position hp => ?_
  have hp := (mem_freePositions.mp hp).1
  have along := entryAlong_getElem hd cell hp
  simpa [List.getD_eq_getElem?_getD, hp] using along.symm

/-- What a finding over several dimensions spells out comes in its own order. -/
theorem firstOrdered_expand_finding {selection : Selection} (hd : selection.dimensions.Nodup)
    {finding : Finding} (applies : finding.AppliesTo selection.dimensions)
    (apart : finding.dimensions.Nodup)
    : FirstOrdered (EnumerationOrder selection.dimensions (some finding))
        (selection.expand (finding.dimensions.map selection.dimensions.idxOf)
          finding.groups) := by
  have order := firstOrdered_expand (anchored_of_appliesTo applies apart)
  have outer := funext (entriesAt_freePositions hd applies.known)
  have inner : entriesAt (finding.dimensions.map selection.dimensions.idxOf)
      = fun cell => finding.dimensions.map (entryAlong selection.dimensions cell) :=
    funext (entriesAt_map_idxOf selection.dimensions finding.dimensions)
  rwa [outer, inner] at order

-----------------------------------------------------------------------------------------
-- The order along a run
-----------------------------------------------------------------------------------------

/-- The selection spells out cells that come in an order by their first occurrences. -/
def SpelledIn (before : CellIndex → CellIndex → Prop) (selection : Selection) : Prop :=
  ∃ cells, selection.explicit = some cells ∧ FirstOrdered before cells

/-- No finding that applies changes the order of cells spelled out: it drops some or none. -/
theorem SpelledIn.folded {before : CellIndex → CellIndex → Prop} {selection : Selection}
    (h : selection.SpelledIn before) {finding : Finding}
    (applies : finding.AppliesTo selection.dimensions)
    : (selection.folded finding).SpelledIn before := by
  obtain ⟨cells, he, order⟩ := h
  rcases applies.single_or_isJoint with ⟨name, indices, rfl⟩ | joint
  · exact ⟨cells, he, order⟩
  · rw [folded_of_isJoint selection joint]
    exact ⟨_, explicit_withGroups_of_some he _ _, order.filter _⟩

theorem SpelledIn.foldl_folded {before : CellIndex → CellIndex → Prop}
    {selection : Selection} (h : selection.SpelledIn before) {findings : List Finding}
    (applies : ∀ finding ∈ findings, finding.AppliesTo selection.dimensions)
    : (findings.foldl Selection.folded selection).SpelledIn before := by
  induction findings generalizing selection with
  | nil => exact h
  | cons finding rest ih =>
      obtain ⟨hfirst, hrest⟩ := List.forall_mem_cons.mp applies
      exact ih (h.folded hfirst) (by simpa using hrest)

theorem explicit_foldl_folded {selection : Selection} {findings : List Finding}
    (applies : ∀ finding ∈ findings, finding.AppliesTo selection.dimensions)
    (single : ∀ finding ∈ findings, ¬finding.isJoint)
    : (findings.foldl folded selection).explicit = selection.explicit := by
  induction findings generalizing selection with
  | nil => rfl
  | cons finding rest ih =>
      obtain ⟨hfirst, hrest⟩ := List.forall_mem_cons.mp applies
      obtain ⟨halone, hothers⟩ := List.forall_mem_cons.mp single
      rw [List.foldl_cons, ih (by simpa using hrest) hothers]
      obtain ⟨name, indices, rfl⟩ := hfirst.single_or_isJoint.resolve_right halone
      rfl

/-- The first finding over several dimensions spells out cells in its own order. -/
theorem spelledIn_folded_of_isJoint {selection : Selection} (hd : selection.dimensions.Nodup)
    (unspelled : selection.explicit = none) {finding : Finding} (hj : finding.isJoint)
    (applies : finding.AppliesTo selection.dimensions) (apart : finding.dimensions.Nodup)
    : (selection.folded finding).SpelledIn
        (EnumerationOrder selection.dimensions (some finding)) := by
  rw [folded_of_isJoint selection hj]
  exact ⟨_, explicit_withGroups_of_none unspelled _ _, firstOrdered_expand_finding hd applies apart⟩

theorem SpelledIn.pairwise_enumerate {before : CellIndex → CellIndex → Prop}
    {selection : Selection} (h : selection.SpelledIn before)
    : selection.enumerate.Pairwise before := by
  obtain ⟨cells, he, order⟩ := h
  rw [enumerate, he]
  exact (pairwise_distinctFrom order ∅).filter _

/-- After any findings cells come in the order that the first of them over several dimensions
sets. Witness: up to it nothing is spelled out, it spells out its own order, and all later
ones keep that.
-/
theorem pairwise_enumerate_foldl_folded {axes : List Axis}
    (hd : (axes.map Axis.name).Nodup) {findings : List Finding}
    (applies : ∀ finding ∈ findings, finding.AppliesTo (axes.map Axis.name))
    (apart : ∀ finding ∈ findings, finding.dimensions.Nodup)
    : (findings.foldl folded (ofAxes axes)).enumerate.Pairwise
        (EnumerationOrder (axes.map Axis.name) (findings.find? Finding.isJoint)) := by
  have applies : ∀ finding ∈ findings, finding.AppliesTo (ofAxes axes).dimensions := applies
  cases h : findings.find? Finding.isJoint with
  | none =>
      rw [enumerate, explicit_foldl_folded applies (List.find?_eq_none.mp h)]
      exact pairwise_choices_sets _
  | some first =>
      obtain ⟨hjoint, earlier, later, rfl, single⟩ := List.find?_eq_some_iff_append.mp h
      obtain ⟨hearlier, hrest⟩ := List.forall_mem_append.mp applies
      have apart := apart first (by simp)
      have unspelled := explicit_foldl_folded hearlier fun finding hm => by
        simpa using single finding hm
      have same := dimensions_foldl_folded earlier (ofAxes axes)
      have spelled := spelledIn_folded_of_isJoint (same ▸ hd) unspelled hjoint
        (same ▸ hrest first (by simp)) apart
      have hlater : ∀ finding ∈ later,
          finding.AppliesTo ((earlier.foldl folded (ofAxes axes)).folded first).dimensions := by
        intro finding hm
        simpa using hrest finding (List.mem_cons_of_mem first hm)
      rw [List.foldl_append, List.foldl_cons]
      rw [same] at spelled
      exact (spelled.foldl_folded hlater).pairwise_enumerate

/-- The cells after any findings are strictly ascending in the order of the first finding over
several dimensions, or lexicographically if there is none. Further findings, put in anywhere
so that this one stays the first of its kind, only drop cells: the others keep their order.
-/
theorem enumerate_strictly_ascending {axes : List Axis}
    (distinct : (axes.map Axis.name).Nodup) {findings : List Finding}
    (apart : ∀ finding ∈ findings, finding.dimensions.Nodup) {selection : Selection}
    (run : findings.foldlM fold (ofAxes axes) = .ok selection)
    : selection.enumerate.Pairwise
        (EnumerationOrder (axes.map Axis.name) (findings.find? Finding.isJoint))
      ∧ ∀ (more : List Finding) (narrowed : Selection),
          findings.Sublist more
          → more.find? Finding.isJoint = findings.find? Finding.isJoint
          → (∀ finding ∈ more, finding.dimensions.Nodup)
          → more.foldlM fold (ofAxes axes) = .ok narrowed
          → narrowed.enumerate.Sublist selection.enumerate := by
  obtain ⟨applies, rfl⟩ := (foldlM_fold_eq_ok_iff (valid_ofAxes axes)).mp run
  have ascending := pairwise_enumerate_foldl_folded distinct applies apart
  refine ⟨ascending, fun more narrowed within same hapart hrun => ?_⟩
  obtain ⟨happlies, rfl⟩ := (foldlM_fold_eq_ok_iff (valid_ofAxes axes)).mp hrun
  have narrow := pairwise_enumerate_foldl_folded distinct happlies hapart
  rw [same] at narrow
  have fewer : (more.foldl folded (ofAxes axes)).enumerate.Subset
      (findings.foldl folded (ofAxes axes)).enumerate := by
    intro cell hm
    rw [mem_enumerate_foldl_folded (valid_ofAxes axes) distinct happlies hapart] at hm
    rw [mem_enumerate_foldl_folded (valid_ofAxes axes) distinct applies apart]
    exact ⟨hm.1, fun finding hf => hm.2 finding (within.subset hf)⟩
  have : Std.Antisymm
      (EnumerationOrder (axes.map Axis.name) (findings.find? Finding.isJoint)) :=
    ⟨fun _ _ h hr => absurd hr (enumerationOrder_asymm h)⟩
  exact List.sublist_of_subperm_of_pairwise
    (List.subperm_of_subset (nodup_enumerate _) fewer) narrow ascending

/-- The cells that `crossing` keeps come in the order of its pairs, also with the indices along
one more dimension in front.
-/
theorem enumerate_strictly_ascending_crossing
    : ∃ selection narrowed,
        crossing.foldlM fold (ofAxes [⟨"x", 3⟩, ⟨"y", 2⟩]) = .ok selection
        ∧ (Finding.single "x" ⟨[0], by decide⟩ :: crossing).foldlM fold
            (ofAxes [⟨"x", 3⟩, ⟨"y", 2⟩]) = .ok narrowed
        ∧ selection.enumerate.Pairwise
            (EnumerationOrder ["x", "y"]
              (some (.pairs "y" "x" [(1, 2), (0, 2), (1, 2), (-1, 1), (1, 0)])))
        ∧ narrowed.enumerate.Sublist selection.enumerate := by
  have run : crossing.foldlM fold (ofAxes [⟨"x", 3⟩, ⟨"y", 2⟩]) = .ok _ :=
    (foldlM_fold_eq_ok_iff (valid_ofAxes _)).mpr ⟨by decide, rfl⟩
  have longer
      : (Finding.single "x" ⟨[0], by decide⟩ :: crossing).foldlM fold
          (ofAxes [⟨"x", 3⟩, ⟨"y", 2⟩]) = .ok _ :=
    (foldlM_fold_eq_ok_iff (valid_ofAxes _)).mpr ⟨by decide, rfl⟩
  obtain ⟨ascending, fewer⟩ := enumerate_strictly_ascending (by decide) (by decide) run
  exact ⟨_, _, run, longer, ascending,
    fewer _ _ (List.sublist_cons_self _ _) rfl (by decide) longer⟩

end GridTable.Selection
