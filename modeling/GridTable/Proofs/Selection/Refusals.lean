import GridTable.Proofs.Selection.Runs

/-! Why findings cannot be folded. Neither the indices that they keep nor those that are selected
have a part in it, only the dimensions of both.
-/

namespace GridTable

/-- Why a finding cannot be folded into a selection over some dimensions, if it cannot. -/
def Finding.refusal? (dimensions : List String) (finding : Finding) : Option Failure :=
  match finding with
  | .single name _ =>
      if name ∈ dimensions then none else some (.error (.unknownDimension name dimensions))
  | .pairs .. | .triplets .. =>
      (finding.dimensions.find? (· ∉ dimensions)).map fun name =>
        .error (.dimensionNotFound name
          (some ("Variable dimensions: " ++ Text.commaList dimensions)))
  | .unsupported kind => some (.fault (.unsupportedFinding kind))

/-- The findings that are not refused are those that apply. -/
theorem Finding.refusal?_eq_none_iff {dimensions : List String} {finding : Finding}
    : finding.refusal? dimensions = none ↔ finding.AppliesTo dimensions := by
  have applies (supported : ∀ kind, finding ≠ .unsupported kind)
      : finding.AppliesTo dimensions ↔ ∀ name ∈ finding.dimensions, name ∈ dimensions :=
    ⟨AppliesTo.known, fun known => ⟨supported, known⟩⟩
  cases finding with
  | single name indices => rw [applies (by simp)]; simp [refusal?, Finding.dimensions]
  | pairs first second items => rw [applies (by simp)]; simp [refusal?, Finding.dimensions]
  | triplets first second third items => rw [applies (by simp)]; simp [refusal?, Finding.dimensions]
  | unsupported kind => exact iff_of_false (by simp [refusal?]) fun h => h.supported kind rfl

/-- The failure with which a finding cannot be folded into a selection over some dimensions. -/
inductive Finding.RefusedFor (dimensions : List String) : Finding → Failure → Prop
  | unknownDimension {name : String} {indices : IndexSet} (absent : name ∉ dimensions)
    : RefusedFor dimensions (.single name indices) (.error (.unknownDimension name dimensions))
  | dimensionNotFound {finding : Finding} {name : String} (joint : finding.isJoint)
    (first : finding.dimensions.find? (· ∉ dimensions) = some name)
    : RefusedFor dimensions finding
        (.error (.dimensionNotFound name
          (some ("Variable dimensions: " ++ Text.commaList dimensions))))
  | unsupported {kind : String}
    : RefusedFor dimensions (.unsupported kind) (.fault (.unsupportedFinding kind))

theorem Finding.refusal?_eq_some_iff {dimensions : List String} {finding : Finding}
    {failure : Failure}
    : finding.refusal? dimensions = some failure ↔ finding.RefusedFor dimensions failure := by
  constructor
  · intro refused
    cases finding with
    | single name indices =>
        by_cases known : name ∈ dimensions
        · simp [refusal?, known] at refused
        · simp only [refusal?, known, if_false, Option.some.injEq] at refused
          exact refused ▸ .unknownDimension known
    | pairs | triplets =>
        obtain ⟨name, first, rfl⟩ := Option.map_eq_some_iff.mp refused
        exact .dimensionNotFound rfl first
    | unsupported kind =>
        obtain rfl := Option.some.inj refused
        exact .unsupported
  · intro refused
    cases refused with
    | unknownDimension absent => simp [refusal?, absent]
    | unsupported => rfl
    | dimensionNotFound joint first =>
        cases finding with
        | single | unsupported => cases joint
        | pairs | triplets => simp only [refusal?, first, Option.map_some]

namespace Selection

variable {selection : Selection}

/-- The first name that is no dimension is the one that is not found, by list induction. -/
theorem mapM_positionOf_eq_error {names : List String} {name : String}
    (h : names.find? (· ∉ selection.dimensions) = some name)
    : names.mapM selection.positionOf
      = .error (.error (.dimensionNotFound name
          (some ("Variable dimensions: " ++ Text.commaList selection.dimensions)))) := by
  induction names with
  | nil => cases h
  | cons first rest ih =>
      rw [List.mapM_cons]
      by_cases known : first ∈ selection.dimensions
      · have located := positionOf_eq_ok_iff.mpr ⟨known, rfl⟩
        rw [List.find?_cons_of_neg (by simpa using known)] at h
        rw [located, Outcome.ok_bind, ih h, Outcome.error_bind]
      · rw [List.find?_cons_of_pos (by simpa using known)] at h
        obtain rfl := Option.some.inj h
        rw [positionOf, List.idxOf?_eq_none_iff.mpr known, Outcome.error_bind]

/-- Folding takes the total step unless the finding is refused. -/
theorem fold_eq (valid : selection.Valid) (finding : Finding)
    : selection.fold finding
      = (finding.refusal? selection.dimensions).elim (.ok (selection.folded finding))
          .error := by
  cases refused : finding.refusal? selection.dimensions with
  | none => exact (fold_eq_ok_iff valid).mpr ⟨Finding.refusal?_eq_none_iff.mp refused, rfl⟩
  | some failure =>
      have joint {names : List String} {groups : List (List Int)}
          (h : (names.find? (· ∉ selection.dimensions)).map (fun name =>
              Failure.error (.dimensionNotFound name
                (some ("Variable dimensions: " ++ Text.commaList selection.dimensions))))
            = some failure)
          : selection.fix names groups = .error failure := by
        obtain ⟨name, missing, rfl⟩ := Option.map_eq_some_iff.mp h
        rw [fix, mapM_positionOf_eq_error missing, Outcome.error_bind]
      cases finding with
      | single name indices =>
          by_cases known : name ∈ selection.dimensions
          · simp [Finding.refusal?, known] at refused
          · obtain rfl : _ = failure := by simpa [Finding.refusal?, known] using refused
            have absent : selection.candidates? name = none := by
              rwa [← Option.not_isSome_iff_eq_none, valid.known name]
            simp [fold, narrow, absent]
      | pairs first second items => exact joint refused
      | triplets first second third items => exact joint refused
      | unsupported kind => exact congrArg Except.error (Option.some.inj refused)

theorem fold_eq_error_iff (valid : selection.Valid) {finding : Finding} {failure : Failure}
    : selection.fold finding = .error failure
      ↔ finding.RefusedFor selection.dimensions failure := by
  rw [fold_eq valid, ← Finding.refusal?_eq_some_iff]
  cases finding.refusal? selection.dimensions <;> simp

/-- A run of findings takes the total steps unless one of them is refused; of those that are the
first one counts. The induction is on the findings; no step changes the dimensions.
-/
theorem foldlM_fold_eq (valid : selection.Valid) (findings : List Finding)
    : findings.foldlM fold selection
      = (findings.findSome? fun finding => finding.refusal? selection.dimensions).elim
          (.ok (findings.foldl folded selection)) .error := by
  induction findings generalizing selection with
  | nil => rfl
  | cons finding rest ih =>
      rw [List.foldlM_cons, fold_eq valid, List.findSome?_cons]
      cases refused : finding.refusal? selection.dimensions with
      | none =>
          have applies := Finding.refusal?_eq_none_iff.mp refused
          rw [Option.elim_none, Outcome.ok_bind, ih (valid.folded applies), dimensions_folded,
            List.foldl_cons]
      | some failure => rfl

/-- A run of findings fails as one of them does. -/
theorem exists_refusedFor_of_foldlM_fold (valid : selection.Valid) {findings : List Finding}
    {failure : Failure} (h : findings.foldlM fold selection = .error failure)
    : ∃ finding ∈ findings, finding.RefusedFor selection.dimensions failure := by
  rw [foldlM_fold_eq valid] at h
  cases refused : findings.findSome? fun finding => finding.refusal? selection.dimensions with
  | none => simp [refused] at h
  | some own =>
      rw [refused, Option.elim_some] at h
      obtain rfl := Except.error.inj h
      obtain ⟨finding, hm, reason⟩ := List.exists_of_findSome?_eq_some refused
      exact ⟨finding, hm, Finding.refusal?_eq_some_iff.mp reason⟩

end Selection

end GridTable
