import GridTable.Proofs.Selection.Estimate
import GridTable.Proofs.Selection.Refusals

/-! Folding in place: a selection that is updated where it is held, and stays as it is where a
failure ends the fold. All that can fail comes before the first update, so that a finding that
cannot be folded leaves no trace.
-/

namespace GridTable.Selection

-----------------------------------------------------------------------------------------
-- Updates in place
-----------------------------------------------------------------------------------------

/-- Narrows the selection that is held to groups of indices along several dimensions. -/
def fixInPlace (dimensions : List String) (groups : List (List Int))
    : EStateM Failure Selection Unit := do
  let fixed ← MonadExcept.ofExcept (dimensions.mapM (← get).positionOf)
  let cells := (← get).expand fixed groups
  match (← get).explicit with
  | none => modify fun selection => { selection with explicit := some cells }
  | some stored =>
      modify fun selection => { selection with explicit := some (keepCommon stored cells) }

/-- Narrows the selection that is held to what a finding keeps. -/
def foldInPlace : Finding → EStateM Failure Selection Unit
  | .single name indices => do
      match (← get).candidates? name with
      | none => throw (.error (.unknownDimension name (← get).dimensions))
      | some current =>
          modify fun selection =>
            { selection with
              candidates := Keyed.assign name (current.inter indices) selection.candidates }
  | .pairs first second items =>
      fixInPlace [first, second] (items.map fun (i, j) => [i, j])
  | .triplets first second third items =>
      fixInPlace [first, second, third] (items.map fun (i, j, k) => [i, j, k])
  | .unsupported kind => throw (.fault (.unsupportedFinding kind))

/-- Narrows the selection that is held to what findings keep, one after the other. Those that fail
are passed over, with whatever they have updated by then.
-/
def foldEachInPlace : List Finding → EStateM Failure Selection Unit
  | [] => pure ()
  | finding :: rest => do
      tryCatch (foldInPlace finding) fun _ => pure ()
      foldEachInPlace rest

/-- What is left of a fold: the selection after it, or the failure and the selection before it. -/
def settled (selection : Selection)
    : Except Failure Selection → EStateM.Result Failure Selection Unit
  | .ok next => .ok () next
  | .error failure => .error failure selection

section

variable {α β : Type} (selection : Selection)

theorem get_bind (next : Selection → EStateM Failure Selection α)
    : (get >>= next) selection = next selection selection :=
  rfl

theorem ofExcept_ok_bind (answer : α) (next : α → EStateM Failure Selection β)
    : (MonadExcept.ofExcept (Except.ok (ε := Failure) answer) >>= next) selection
      = next answer selection :=
  rfl

theorem ofExcept_error_bind (failure : Failure) (next : α → EStateM Failure Selection β)
    : (MonadExcept.ofExcept (Except.error (α := α) failure) >>= next) selection
      = .error failure selection :=
  rfl

end

/-- All positions are looked up before any cell is stored. -/
theorem fixInPlace_eq (selection : Selection) (names : List String) (groups : List (List Int))
    : fixInPlace names groups selection = settled selection (selection.fix names groups) := by
  rw [fixInPlace, fix, get_bind]
  cases located : names.mapM selection.positionOf with
  | error failure => rw [ofExcept_error_bind, Outcome.error_bind, settled]
  | ok fixed =>
      rw [ofExcept_ok_bind, get_bind, get_bind, Outcome.ok_bind]
      cases selection.explicit with
      | none => rfl
      | some stored => rfl

/-- A fold in place that fails leaves the selection as it was, and one that does not leaves the
selection that the fold makes.
-/
theorem foldInPlace_eq (selection : Selection) (finding : Finding)
    : foldInPlace finding selection = settled selection (selection.fold finding) := by
  cases finding with
  | single name indices =>
      rw [foldInPlace, fold, narrow, get_bind]
      cases selection.candidates? name with
      | none => rfl
      | some current => rfl
  | pairs first second items => exact fixInPlace_eq selection _ _
  | triplets first second third items => exact fixInPlace_eq selection _ _
  | unsupported kind => rfl

/-- Folds in place, failing ones among them, leave what the same folds leave otherwise. -/
theorem foldEachInPlace_eq (selection : Selection) (findings : List Finding)
    : foldEachInPlace findings selection = .ok () (findings.foldl attempt selection) := by
  induction findings generalizing selection with
  | nil => rfl
  | cons finding rest ih =>
      have passed : tryCatch (foldInPlace finding) (fun _ => pure ()) selection
          = .ok () (selection.attempt finding) := by
        change EStateM.tryCatch _ _ selection = _
        rw [EStateM.tryCatch, foldInPlace_eq, attempt]
        cases selection.fold finding with
        | ok next => rfl
        | error failure => rfl
      change EStateM.bind _ _ selection = _
      rw [EStateM.bind, passed]
      exact ih (selection.attempt finding)

-----------------------------------------------------------------------------------------
-- Findings that are refused
-----------------------------------------------------------------------------------------

/-- Findings that do not apply have no part in what is left, by induction on all of them. -/
theorem foldl_attempt_eq {selection : Selection} (valid : selection.Valid)
    (findings : List Finding)
    : findings.foldl attempt selection
      = (findings.filter (·.AppliesTo selection.dimensions)).foldl folded selection := by
  induction findings generalizing selection with
  | nil => rfl
  | cons finding rest ih =>
      rw [List.foldl_cons, attempt]
      by_cases applies : finding.AppliesTo selection.dimensions
      · rw [(fold_eq_ok_iff valid).mpr ⟨applies, rfl⟩, ih (valid.folded applies),
          dimensions_folded, List.filter_cons_of_pos (by simpa using applies), List.foldl_cons]
      · cases folds : selection.fold finding with
        | ok next => exact absurd ((fold_eq_ok_iff valid).mp folds).1 applies
        | error failure => rw [ih valid, List.filter_cons_of_neg (by simpa using applies)]

theorem dimensions_foldl_attempt {selection : Selection} (valid : selection.Valid)
    (findings : List Finding)
    : (findings.foldl attempt selection).dimensions = selection.dimensions := by
  rw [foldl_attempt_eq valid, dimensions_foldl_folded]

/-- Whatever was folded in place before, failing folds among it: a finding fails to fold for its
names alone, and leaves the selection as it was. So findings end with the selection that is left by
those among them that apply, with whatever others these are interleaved.
-/
theorem failed_folds_leave_no_trace {axes : List Axis} {findings : List Finding}
    {selection : Selection} (reached : foldEachInPlace findings (ofAxes axes) = .ok () selection)
    : (∀ finding failure,
        selection.fold finding = .error failure
        ↔ finding.RefusedFor (axes.map Axis.name) failure)
      ∧ (∀ finding failure left,
          foldInPlace finding selection = .error failure left
          ↔ finding.RefusedFor (axes.map Axis.name) failure ∧ left = selection)
      ∧ (findings.filter (·.AppliesTo (axes.map Axis.name))).foldlM fold (ofAxes axes)
        = .ok selection
      ∧ ∀ others : List Finding,
          others.filter (·.AppliesTo (axes.map Axis.name))
            = findings.filter (·.AppliesTo (axes.map Axis.name))
          → foldEachInPlace others (ofAxes axes) = .ok () selection := by
  rw [foldEachInPlace_eq] at reached
  have run : findings.foldl attempt (ofAxes axes) = selection := by
    injection reached
  have valid : selection.Valid := run ▸ (valid_ofAxes axes).foldl_attempt findings
  have names : selection.dimensions = axes.map Axis.name := by
    rw [← run, dimensions_foldl_attempt (valid_ofAxes axes)]
    rfl
  have kept : (findings.filter (·.AppliesTo (axes.map Axis.name))).foldl folded (ofAxes axes)
      = selection :=
    (foldl_attempt_eq (valid_ofAxes axes) findings).symm.trans run
  have refused (finding : Finding) (failure : Failure)
      : selection.fold finding = .error failure
        ↔ finding.RefusedFor (axes.map Axis.name) failure := by
    rw [fold_eq_error_iff valid, names]
  refine ⟨refused, ?_, ?_, ?_⟩
  · intro finding failure left
    rw [foldInPlace_eq, ← refused]
    cases selection.fold finding with
    | ok next => simp [settled]
    | error own => simp [settled, eq_comm]
  · refine (foldlM_fold_eq_ok_iff (valid_ofAxes axes)).mpr ⟨?_, kept⟩
    intro finding hm
    simpa [ofAxes] using (List.mem_filter.mp hm).2
  · intro others same
    have others_run : others.foldl attempt (ofAxes axes) = selection := by
      rw [foldl_attempt_eq (valid_ofAxes axes), ← kept, ← same]
      rfl
    rw [foldEachInPlace_eq, others_run]

/-- Findings of which the second and the last one apply to dimensions `x` and `y`. -/
def interleaved : List Finding :=
  [
    .single "z" ⟨[0], by decide⟩,
    .pairs "y" "x" [(1, 2), (0, 5), (1, 2)],
    .triplets "x" "y" "t" [],
    .unsupported "dict",
    .single "x" ⟨[1, 2], by decide⟩
  ]

/-- The findings of `interleaved` end as the two that apply do, and a later one fails for the first
of its names that is no dimension.
-/
theorem failed_folds_leave_no_trace_interleaved
    : ∃ selection,
        foldEachInPlace interleaved (ofAxes [⟨"x", 3⟩, ⟨"y", 2⟩]) = .ok () selection
        ∧ foldEachInPlace
            [.pairs "y" "x" [(1, 2), (0, 5), (1, 2)], .single "x" ⟨[1, 2], by decide⟩]
            (ofAxes [⟨"x", 3⟩, ⟨"y", 2⟩])
          = .ok () selection
        ∧ foldInPlace (.triplets "x" "w" "v" []) selection
          = .error
              (.error (.dimensionNotFound "w" (some "Variable dimensions: x, y"))) selection := by
  have reached := foldEachInPlace_eq (ofAxes [⟨"x", 3⟩, ⟨"y", 2⟩]) interleaved
  obtain ⟨-, refused, -, same⟩ := failed_folds_leave_no_trace reached
  refine ⟨_, reached, same _ rfl, (refused _ _ _).mpr ⟨?_, rfl⟩⟩
  exact .dimensionNotFound rfl rfl

end GridTable.Selection
