import GridTable.Proofs.Selection.Choices
import GridTable.Proofs.Selection.Findings
import GridTable.Proofs.Selection.FirstOccurrence
import GridTable.Proofs.Selection.Membership

/-! How many cells are enumerated at most, also after findings that cannot be folded.
-/

namespace GridTable.Selection

/-- Without cells that are spelled out the estimate is exact. -/
theorem length_enumerate_of_explicit_none {selection : Selection}
    (h : selection.explicit = none)
    : selection.enumerate.length = selection.estimate := by
  rw [enumerate, estimate, h]
  simp only [length_choices, List.foldr_map]
  rfl

/-- No more cells are enumerated than estimated: of those spelled out, repeated ones and ones
that are no candidates any more are dropped.
-/
theorem length_enumerate_le_estimate (selection : Selection)
    : selection.enumerate.length ≤ selection.estimate := by
  cases h : selection.explicit with
  | none => exact Nat.le_of_eq (length_enumerate_of_explicit_none h)
  | some cells =>
      rw [enumerate, estimate, h]
      calc ((distinctFrom ∅ cells).filter _).length
        _ ≤ (distinctFrom ∅ cells).length := List.length_filter_le _ _
        _ ≤ cells.length := (distinctFrom_sublist ∅ cells).length_le

/-- The selection after a finding that may fail to apply: it is then as before. -/
def attempt (selection : Selection) (finding : Finding) : Selection :=
  match selection.fold finding with
  | .ok next => next
  | .error _ => selection

/-- Findings leave a selection valid, whether they apply or not, by induction on them. -/
theorem Valid.foldl_attempt {selection : Selection} (valid : selection.Valid)
    (findings : List Finding)
    : (findings.foldl attempt selection).Valid := by
  induction findings generalizing selection with
  | nil => exact valid
  | cons finding rest ih =>
      refine ih ?_
      rw [attempt]
      cases h : selection.fold finding with
      | error failure => exact valid
      | ok next =>
          obtain ⟨applies, rfl⟩ := (fold_eq_ok_iff valid).mp h
          exact valid.folded applies

/-- A finding along one dimension spells out nothing, whether it applies or not. -/
theorem explicit_attempt_single (selection : Selection) (name : String) (indices : IndexSet)
    : (selection.attempt (.single name indices)).explicit = selection.explicit := by
  rw [attempt, fold, narrow]
  cases selection.candidates? name <;> rfl

/-- Nothing is spelled out as long as no finding over several dimensions is folded, by
induction on the findings.
-/
theorem explicit_foldl_attempt {selection : Selection} {findings : List Finding}
    (refused : ∀ (earlier later : List Finding) (finding : Finding),
      findings = earlier ++ finding :: later
      → finding.isJoint
      → ∃ failure, (earlier.foldl attempt selection).fold finding = .error failure)
    : (findings.foldl attempt selection).explicit = selection.explicit := by
  induction findings generalizing selection with
  | nil => rfl
  | cons finding rest ih =>
      rw [List.foldl_cons, ih fun earlier later other split joint =>
        refused (finding :: earlier) later other (congrArg _ split) joint]
      by_cases joint : finding.isJoint
      · obtain ⟨failure, h⟩ := refused [] rest finding rfl joint
        rw [List.foldl_nil] at h
        rw [attempt, h]
      · cases finding with
        | single name indices => exact explicit_attempt_single selection name indices
        | pairs first second items => exact absurd rfl joint
        | triplets first second third items => exact absurd rfl joint
        | unsupported kind => rfl

end GridTable.Selection
