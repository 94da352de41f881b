import GridTable.Proofs.Alike

/-! Computations that end with a fault: a failure that the rules of the program do not describe.
-/

namespace GridTable.Outcome

variable {α β : Type}

/-- A computation faults if it ends with a failure that is no error of the program. -/
def Faults (outcome : Except Failure α) : Prop :=
  ∃ cause, outcome = .error (.fault cause)

instance : DecidablePred (Faults : Except Failure α → Prop)
  | .error (.fault cause) => isTrue ⟨cause, rfl⟩
  | .error (.error _) => isFalse nofun
  | .ok _ => isFalse nofun

@[simp] theorem not_faults_ok (answer : α) : ¬Faults (.ok answer) :=
  nofun

@[simp] theorem not_faults_pure (answer : α) : ¬Faults (pure answer) :=
  nofun

@[simp] theorem not_faults_error (reason : Error)
    : ¬Faults (.error (.error reason) : Except _ α) :=
  nofun

@[simp] theorem faults_fault (cause : Fault) : Faults (.error (.fault cause) : Except _ α) :=
  ⟨cause, rfl⟩

@[simp] theorem faults_raiseFault (cause : Fault) : Faults (raiseFault cause : Except _ α) :=
  ⟨cause, rfl⟩

@[simp] theorem pure_ne_error (answer : α) (failure : Failure)
    : (pure answer : Except Failure α) ≠ .error failure := by
  simp [pure, Except.pure]

@[simp] theorem raiseFault_ne_error (cause : Fault) (reason : Error)
    : (raiseFault cause : Except _ α) ≠ .error (.error reason) := by
  simp [raiseFault]

/-- A computation faults in its first step, or after the answer of that. -/
theorem faults_bind_iff {first : Except Failure α} {next : α → Except Failure β}
    : Faults (first >>= next)
      ↔ Faults first ∨ ∃ answer, first = .ok answer ∧ Faults (next answer) := by
  cases first with
  | ok answer => simp
  | error failure => cases failure <;> simp

@[simp] theorem faults_map_iff {change : α → β} {outcome : Except Failure α}
    : Faults (change <$> outcome) ↔ Faults outcome := by
  cases outcome with
  | ok answer => simp
  | error failure => cases failure <;> simp

/-- A computation without errors of the program faults or has an answer. -/
theorem exists_ok_of_not_faults {outcome : Except Failure α}
    (plain : ∀ reason, outcome ≠ .error (.error reason)) (h : ¬Faults outcome)
    : ∃ answer, outcome = .ok answer := by
  cases outcome with
  | ok answer => exact ⟨answer, rfl⟩
  | error failure =>
      cases failure with
      | error reason => exact absurd rfl (plain reason)
      | fault cause => exact absurd (faults_fault cause) h

/-- A first step without errors of the program may be looked at apart from the second one. -/
theorem faults_bind_iff_or {first : Except Failure α} {next : α → Except Failure β} {later : Prop}
    (plain : ∀ reason, first ≠ .error (.error reason))
    (h : ∀ answer, Faults (next answer) ↔ later)
    : Faults (first >>= next) ↔ Faults first ∨ later := by
  rw [faults_bind_iff]
  by_cases faulty : Faults first
  · simp [faulty]
  · obtain ⟨answer, rfl⟩ := exists_ok_of_not_faults plain faulty
    simp [h]

/-- Of computations that end alike both fault or none does. -/
theorem Alike.faults_iff {first second : Except Failure α} (h : Alike first second)
    : Faults first ↔ Faults second := by
  cases h with
  | ok answer => rfl
  | error same =>
      cases same with
      | error names => simp
      | fault cause => rfl

-----------------------------------------------------------------------------------------
-- Lists
-----------------------------------------------------------------------------------------

theorem not_faults_mapM {step : α → Except Failure β} {entries : List α}
    (h : ∀ entry ∈ entries, ¬Faults (step entry))
    : ¬Faults (entries.mapM step) := by
  rintro ⟨cause, failed⟩
  obtain ⟨entry, hm, own⟩ := exists_of_mapM_eq_error failed
  exact h entry hm ⟨cause, own⟩

theorem not_faults_foldlM {step : β → α → Except Failure β} {entries : List α}
    (h : ∀ entry ∈ entries, ∀ state, ¬Faults (step state entry)) (start : β)
    : ¬Faults (entries.foldlM step start) := by
  induction entries generalizing start with
  | nil => exact not_faults_pure start
  | cons entry rest ih =>
      obtain ⟨hfirst, hrest⟩ := List.forall_mem_cons.mp h
      rw [List.foldlM_cons, faults_bind_iff]
      rintro (first | ⟨next, -, later⟩)
      · exact hfirst start first
      · exact ih hrest next later

theorem mapM_ne_error {step : α → Except Failure β} {entries : List α}
    (plain : ∀ entry reason, step entry ≠ .error (.error reason)) (reason : Error)
    : entries.mapM step ≠ .error (.error reason) := by
  intro failed
  obtain ⟨entry, -, own⟩ := exists_of_mapM_eq_error failed
  exact plain entry reason own

/-- Where no step has an error of the program, a list faults if one of its entries does. -/
theorem faults_mapM_iff {step : α → Except Failure β} {entries : List α}
    (plain : ∀ entry reason, step entry ≠ .error (.error reason))
    : Faults (entries.mapM step) ↔ ∃ entry ∈ entries, Faults (step entry) := by
  constructor
  · rintro ⟨cause, failed⟩
    obtain ⟨entry, hm, own⟩ := exists_of_mapM_eq_error failed
    exact ⟨entry, hm, cause, own⟩
  · rintro ⟨entry, hm, cause, own⟩
    cases run : entries.mapM step with
    | ok answers =>
        obtain ⟨answer, other⟩ := exists_answer_of_mem run hm
        cases own.symm.trans other
    | error failure =>
        obtain ⟨first, -, failed⟩ := exists_of_mapM_eq_error run
        cases failure with
        | error reason => exact absurd failed (plain first reason)
        | fault other => exact faults_fault other

end GridTable.Outcome
