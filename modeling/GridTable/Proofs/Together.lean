import GridTable.Proofs.Outcome

/-! Computations that end together: both with answers that belong together, or both with one and the
same failure.
-/

namespace GridTable.Outcome

variable {ε α β γ δ : Type}

inductive Together (related : α → β → Prop) : Except ε α → Except ε β → Prop where
  | ok {answer : α} {other : β} (h : related answer other)
    : Together related (.ok answer) (.ok other)
  | error (failure : ε) : Together related (.error failure) (.error failure)

namespace Together

variable {related : α → β → Prop}

theorem refl {related : α → α → Prop} (h : ∀ answer, related answer answer)
    (outcome : Except ε α)
    : Together related outcome outcome := by
  cases outcome with
  | ok answer => exact .ok (h answer)
  | error failure => exact .error failure

theorem eq {first second : Except ε α} (h : Together Eq first second) : first = second := by
  cases h with
  | ok same => rw [same]
  | error failure => rfl

theorem imp {looser : α → β → Prop} {first : Except ε α} {second : Except ε β}
    (h : Together related first second)
    (weaker : ∀ answer other, related answer other → looser answer other)
    : Together looser first second := by
  cases h with
  | ok same => exact .ok (weaker _ _ same)
  | error failure => exact .error failure

/-- What goes on together after computations that end together ends together as well. -/
theorem bind {later : γ → δ → Prop} {first : Except ε α} {second : Except ε β}
    {next : α → Except ε γ} {after : β → Except ε δ} (h : Together related first second)
    (hnext : ∀ answer other, related answer other → Together later (next answer) (after other))
    : Together later (first >>= next) (second >>= after) := by
  cases h with
  | ok same => exact hnext _ _ same
  | error failure => exact .error failure

/-- Two continuations of one computation need to end together for its answer only. -/
theorem after {later : γ → δ → Prop} (outcome : Except ε α) {next : α → Except ε γ}
    {other : α → Except ε δ} (h : ∀ answer, Together later (next answer) (other answer))
    : Together later (outcome >>= next) (outcome >>= other) := by
  cases outcome with
  | ok answer => exact h answer
  | error failure => exact .error failure

theorem map {later : γ → δ → Prop} {first : Except ε α} {second : Except ε β} {change : α → γ}
    {alter : β → δ} (h : Together related first second)
    (keeps : ∀ answer other, related answer other → later (change answer) (alter other))
    : Together later (change <$> first) (alter <$> second) := by
  cases h with
  | ok same => exact .ok (keeps _ _ same)
  | error failure => exact .error failure

/-- Steps that end together for each entry end together for a list, by list induction. -/
theorem mapM {entries : List γ} {step : γ → Except ε α} {other : γ → Except ε β}
    (h : ∀ entry ∈ entries, Together related (step entry) (other entry))
    : Together (List.Forall₂ related) (entries.mapM step) (entries.mapM other) := by
  induction entries with
  | nil => exact .ok .nil
  | cons entry rest ih =>
      obtain ⟨hfirst, hrest⟩ := List.forall_mem_cons.mp h
      simp only [List.mapM_cons]
      refine hfirst.bind fun answer own same => ?_
      refine (ih hrest).bind fun answers others each => ?_
      exact .ok (.cons same each)

end Together

/-- Computations that stop together: at the same failure, or each with an answer of its own. -/
abbrev Abreast (first : Except ε α) (second : Except ε β) : Prop :=
  Together (fun _ _ => True) first second

namespace Abreast

variable {first : Except ε α} {second : Except ε β}

theorem pure_left (h : Abreast first second) (change : α → γ)
    : Abreast (first >>= fun answer => pure (change answer)) second := by
  cases h with
  | ok _ => exact .ok trivial
  | error failure => exact .error failure

theorem pure_right (h : Abreast first second) (change : β → γ)
    : Abreast first (second >>= fun answer => pure (change answer)) := by
  cases h with
  | ok _ => exact .ok trivial
  | error failure => exact .error failure

end Abreast

end GridTable.Outcome
