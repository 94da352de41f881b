import GridTable.Failure.Making
import GridTable.Proofs.Outcome

/-! Computations that end alike: with the same answer, or with failures of one class.
-/

namespace GridTable

/-- Errors with the same names are of one class, whatever else they tell, and so is a fault with
itself.
-/
inductive Failure.SameClass : Failure → Failure → Prop where
  | error {first second : Error} (same : first.names = second.names)
    : SameClass (.error first) (.error second)
  | fault (cause : Fault) : SameClass (.fault cause) (.fault cause)

namespace Failure.SameClass

theorem refl (failure : Failure) : SameClass failure failure := by
  cases failure with
  | error reason => exact .error rfl
  | fault cause => exact .fault cause

theorem symm {first second : Failure} (h : SameClass first second)
    : SameClass second first := by
  cases h with
  | error same => exact .error same.symm
  | fault cause => exact .fault cause

theorem trans {first second third : Failure} (h : SameClass first second)
    (hnext : SameClass second third)
    : SameClass first third := by
  cases h with
  | error same =>
      cases hnext with
      | error next => exact .error (same.trans next)
  | fault cause => exact hnext

end Failure.SameClass

namespace Outcome

variable {α β : Type}

/-- Computations end alike if they have the same answer or fail with one class. -/
inductive Alike : Except Failure α → Except Failure α → Prop where
  | ok (answer : α) : Alike (.ok answer) (.ok answer)
  | error {first second : Failure} (same : first.SameClass second)
    : Alike (.error first) (.error second)

namespace Alike

theorem refl (outcome : Except Failure α) : Alike outcome outcome := by
  cases outcome with
  | ok answer => exact .ok answer
  | error failure => exact .error (.refl failure)

theorem symm {first second : Except Failure α} (h : Alike first second)
    : Alike second first := by
  cases h with
  | ok answer => exact .ok answer
  | error same => exact .error same.symm

theorem trans {first second third : Except Failure α} (h : Alike first second)
    (hnext : Alike second third)
    : Alike first third := by
  cases h with
  | ok answer => exact hnext
  | error same =>
      cases hnext with
      | error next => exact .error (same.trans next)

theorem eq_ok_iff {first second : Except Failure α} (h : Alike first second) {answer : α}
    : first = .ok answer ↔ second = .ok answer := by
  cases h with
  | ok other => rfl
  | error same => exact iff_of_false nofun nofun

/-- A fault is alike only to itself. -/
theorem eq_fault_iff {first second : Except Failure α} (h : Alike first second) {cause : Fault}
    : first = .error (.fault cause) ↔ second = .error (.fault cause) := by
  cases h with
  | ok answer => rfl
  | error same =>
      cases same with
      | error names => exact iff_of_false nofun nofun
      | fault other => rfl

/-- What goes on alike after computations that end alike ends alike as well. -/
theorem bind {first second : Except Failure α} {next later : α → Except Failure β}
    (h : Alike first second) (hnext : ∀ answer, Alike (next answer) (later answer))
    : Alike (first >>= next) (second >>= later) := by
  cases h with
  | ok answer => exact hnext answer
  | error same => exact .error same

end Alike

/-- Parts of a list that are gone through one after the other end like the whole list, if that
holds of each part and what is left after it. The induction is on the parts.
-/
theorem alike_flatten_mapM {step : List α → Except Failure (List β)} {whole : List α → Prop}
    (tail : ∀ first rest, whole (first ++ rest) → whole rest)
    (split : ∀ first rest,
      whole (first ++ rest)
      → first ≠ []
      → Alike
          (do
            let answers ← step first
            let others ← step rest
            pure (answers ++ others))
          (step (first ++ rest)))
    {parts : List (List α)} (filled : ∀ part ∈ parts, part ≠ []) (nonempty : parts ≠ [])
    (h : whole parts.flatten)
    : Alike (List.flatten <$> parts.mapM step) (step parts.flatten) := by
  induction parts with
  | nil => exact absurd rfl nonempty
  | cons first rest ih =>
      obtain ⟨hfirst, hrest⟩ := List.forall_mem_cons.mp filled
      rw [List.flatten_cons] at h ⊢
      rw [flatten_mapM_cons]
      by_cases last : rest = []
      · subst last
        have alone : (do
            let answers ← step first
            let others ← List.flatten <$> ([] : List (List α)).mapM step
            pure (answers ++ others)) = step first := by
          cases step first <;> simp [pure, Except.pure]
        rw [alone, List.flatten_nil, List.append_nil]
        exact .refl _
      · have others := ih hrest last (tail first _ h)
        have joined := split first rest.flatten h hfirst
        refine .trans (.bind (.refl (step first)) fun answers => ?_) joined
        exact others.bind fun more => .refl _

end Outcome

end GridTable
