import GridTable.Proofs.Selection.Estimate
import GridTable.Proofs.Selection.RowOrder

/-! When the estimate of a selection is the number of its cells.
-/

namespace GridTable.Selection

/-- A selection is tight if the cells that it spells out, if any, are different ones and all of
them still candidates.
-/
def Tight (selection : Selection) : Prop :=
  ∀ cells, selection.explicit = some cells →
    cells.Nodup ∧ ∀ cell ∈ cells, selection.Candidate cell

theorem tight_of_explicit_none {selection : Selection} (h : selection.explicit = none)
    : selection.Tight := by
  intro cells spelled
  simp [h] at spelled

/-- The estimate is exact just for tight selections: each cell that is spelled out again, or that
is no candidate any more, counts for the estimate alone.
-/
theorem length_enumerate_eq_estimate_iff {selection : Selection} (valid : selection.Valid)
    : selection.enumerate.length = selection.estimate ↔ selection.Tight := by
  cases h : selection.explicit with
  | none =>
      have tight := tight_of_explicit_none h
      exact iff_of_true (length_enumerate_of_explicit_none h) tight
  | some cells =>
      have count : selection.estimate = cells.length := by rw [estimate, h]
      rw [count]
      constructor
      · intro same
        have listed : selection.enumerate.Sublist cells := by
          rw [enumerate, h]
          exact (List.filter_sublist ..).trans (distinctFrom_sublist ∅ cells)
        have all := listed.eq_of_length same
        intro spelled hs
        obtain rfl : cells = spelled := Option.some.inj (h.symm.trans hs)
        refine ⟨?_, fun cell hm => ?_⟩
        · exact all ▸ nodup_enumerate selection
        · exact ((mem_enumerate valid).mp (all ▸ hm)).1
      · intro tight
        obtain ⟨once, candidates⟩ := tight cells h
        have kept : cells ⊆ selection.enumerate := by
          intro cell hm
          refine (mem_enumerate valid).mpr ⟨candidates cell hm, fun spelled hs => ?_⟩
          exact Option.some.inj (h.symm.trans hs) ▸ hm
        have most := length_enumerate_le_estimate selection
        have least := once.length_le_of_subset kept
        omega

/-- Findings along one dimension each leave a selection of all cells tight. -/
theorem tight_foldl_folded {axes : List Axis} {findings : List Finding}
    (applies : ∀ finding ∈ findings, finding.AppliesTo (axes.map Axis.name))
    (single : ∀ finding ∈ findings, ¬finding.isJoint)
    : (findings.foldl folded (ofAxes axes)).Tight := by
  have unspelled : (findings.foldl folded (ofAxes axes)).explicit = none :=
    explicit_foldl_folded applies single
  exact tight_of_explicit_none unspelled

/-- Of two selections of the same cells a tight one has the lower estimate. -/
theorem Tight.estimate_le {selection other : Selection} (tight : selection.Tight)
    (valid : selection.Valid)
    (same : ∀ cell, cell ∈ selection.enumerate → cell ∈ other.enumerate)
    : selection.estimate ≤ other.estimate := by
  have exact := (length_enumerate_eq_estimate_iff valid).mpr tight
  have fewer := (nodup_enumerate selection).length_le_of_subset fun cell hm => same cell hm
  have most := length_enumerate_le_estimate other
  omega

end GridTable.Selection
