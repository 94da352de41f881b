import GridTable.Proofs.Faults

/-! How computations end: with answers of one sort or with failures of one sort. The rules say what
is known of a computation from what is known of its steps.
-/

namespace GridTable.Outcome

variable {ε α β : Type}

/-- A computation ends as described: what holds of its answer, or of the failure. -/
inductive Ends (holds : α → Prop) (fails : ε → Prop) : Except ε α → Prop
  | ok {answer : α} (h : holds answer) : Ends holds fails (.ok answer)
  | error {failure : ε} (h : fails failure) : Ends holds fails (.error failure)

namespace Ends

variable {holds : α → Prop} {fails : ε → Prop} {outcome : Except ε α}

theorem of_ok (h : Ends holds fails outcome) {answer : α} (ended : outcome = .ok answer)
    : holds answer := by
  subst ended
  cases h with
  | ok known => exact known

theorem of_error (h : Ends holds fails outcome) {failure : ε} (ended : outcome = .error failure)
    : fails failure := by
  subst ended
  cases h with
  | error known => exact known

theorem pure {answer : α} (h : holds answer)
    : Ends holds fails (Pure.pure answer : Except ε α) :=
  .ok h

theorem imp {looser : α → Prop} {broader : ε → Prop} (h : Ends holds fails outcome)
    (answers : ∀ answer, holds answer → looser answer)
    (failures : ∀ failure, fails failure → broader failure)
    : Ends looser broader outcome := by
  cases h with
  | ok known => exact .ok (answers _ known)
  | error known => exact .error (failures _ known)

/-- A second step may build on what holds of the answer of the first. -/
theorem bind {later : β → Prop} {next : α → Except ε β} (h : Ends holds fails outcome)
    (hnext : ∀ answer, holds answer → Ends later fails (next answer))
    : Ends later fails (outcome >>= next) := by
  cases h with
  | ok known => exact hnext _ known
  | error known => exact .error known

theorem map (h : Ends holds fails outcome) (change : α → β)
    : Ends (fun _ => True) fails (outcome >>= fun answer => Pure.pure (change answer)) :=
  h.bind fun _ _ => .ok trivial

theorem ite {condition : Prop} [Decidable condition] {first second : Except ε α}
    (yes : condition → Ends holds fails first) (no : ¬condition → Ends holds fails second)
    : Ends holds fails (if condition then first else second) := by
  by_cases h : condition
  · rw [if_pos h]
    exact yes h
  · rw [if_neg h]
    exact no h

/-- What holds of the answer for each entry holds of all answers of a list, by list induction. -/
theorem mapM {entries : List β} {step : β → Except ε α}
    (h : ∀ entry ∈ entries, Ends holds fails (step entry))
    : Ends (fun answers => ∀ answer ∈ answers, holds answer) fails (entries.mapM step) := by
  induction entries with
  | nil => exact .ok (by simp)
  | cons entry rest ih =>
      obtain ⟨hfirst, hrest⟩ := List.forall_mem_cons.mp h
      rw [List.mapM_cons]
      refine hfirst.bind fun answer known => (ih hrest).bind fun answers others => ?_
      exact .ok (List.forall_mem_cons.mpr ⟨known, others⟩)

end Ends

/-- A failure that says what is wrong with the configuration. -/
def IsComplaint (failure : Failure) : Prop :=
  ∃ item issue, failure = .error (.configuration item issue)

/-- A computation settles if it has an answer or says what is wrong with the configuration. -/
def Settles (outcome : Except Failure α) : Prop :=
  Ends (fun _ => True) IsComplaint outcome

/-- What comes of configurations that cannot be used: a complaint, or a fault. -/
def IsRejection (failure : Failure) : Prop :=
  IsComplaint failure ∨ ∃ cause, failure = .fault cause

theorem Settles.not_faults {outcome : Except Failure α} (settles : Settles outcome)
    : ¬Faults outcome := by
  rintro ⟨cause, faulty⟩
  obtain ⟨item, issue, other⟩ := settles.of_error faulty
  cases other

/-- What is rejected is complained about, unless there is a fault. -/
theorem settles_iff_not_faults {holds : α → Prop} {outcome : Except Failure α}
    (h : Ends holds IsRejection outcome)
    : Settles outcome ↔ ¬Faults outcome := by
  constructor
  · exact Settles.not_faults
  · intro faultless
    cases h with
    | ok known => exact .ok trivial
    | error known =>
        rcases known with complaint | ⟨cause, rfl⟩
        · exact .error complaint
        · exact absurd (faults_fault cause) faultless

theorem ends_misconfigured {holds : α → Prop} (item : String) (issue : Issue)
    : Ends holds IsComplaint (misconfigured item issue) :=
  .error ⟨item, issue, rfl⟩

theorem Ends.rejects {holds : α → Prop} {outcome : Except Failure α}
    (h : Ends holds IsComplaint outcome)
    : Ends holds IsRejection outcome :=
  h.imp (fun _ known => known) fun _ => Or.inl

theorem ends_raiseFault {holds : α → Prop} (cause : Fault)
    : Ends holds IsRejection (raiseFault cause) :=
  .error (Or.inr ⟨cause, rfl⟩)

/-- A computation that has an answer under a condition, and faults otherwise. -/
def FaultsUnless (condition : Prop) (outcome : Except Failure α) : Prop :=
  Ends (fun _ => condition) (fun failure => ¬condition ∧ ∃ cause, failure = .fault cause) outcome

namespace FaultsUnless

variable {condition : Prop} {outcome : Except Failure α}

theorem fault (broken : ¬condition) (cause : Fault)
    : FaultsUnless condition (raiseFault cause : Except Failure α) :=
  .error ⟨broken, cause, rfl⟩

theorem faults_iff (h : FaultsUnless condition outcome) : Faults outcome ↔ ¬condition := by
  cases h with
  | ok known => simp [known]
  | error known =>
      obtain ⟨broken, cause, rfl⟩ := known
      simp [broken]

theorem exists_ok_iff (h : FaultsUnless condition outcome)
    : (∃ answer, outcome = .ok answer) ↔ condition := by
  cases h with
  | ok known => simp [known]
  | error known => simp [known.1]

theorem rejects (h : FaultsUnless condition outcome)
    : Ends (fun _ => condition) IsRejection outcome :=
  h.imp (fun _ known => known) fun _ known => Or.inr known.2

theorem map (h : FaultsUnless condition outcome) (change : α → β)
    : FaultsUnless condition (outcome >>= fun answer => pure (change answer)) := by
  cases h with
  | ok known => exact .ok known
  | error known => exact .error known

theorem congr {other : Prop} (h : FaultsUnless condition outcome) (same : condition ↔ other)
    : FaultsUnless other outcome :=
  propext same ▸ h

/-- A list is gone through if the condition of each entry is met, by list induction. -/
theorem mapM {conditionOf : β → Prop} {step : β → Except Failure α}
    {entries : List β} (h : ∀ entry ∈ entries, FaultsUnless (conditionOf entry) (step entry))
    : FaultsUnless (∀ entry ∈ entries, conditionOf entry) (entries.mapM step) := by
  induction entries with
  | nil => exact .ok (by simp)
  | cons entry rest ih =>
      obtain ⟨own, hrest⟩ := List.forall_mem_cons.mp h
      have ih := ih hrest
      rw [List.mapM_cons]
      generalize step entry = first at own ⊢
      generalize rest.mapM step = others at ih ⊢
      cases own with
      | error known => exact .error ⟨fun all => known.1 (all entry List.mem_cons_self), known.2⟩
      | ok first =>
          cases ih with
          | error known =>
              exact .error ⟨fun all => known.1 (List.forall_mem_cons.mp all).2, known.2⟩
          | ok others => exact .ok (List.forall_mem_cons.mpr ⟨first, others⟩)

end FaultsUnless

/-- Going through a list stops at the first entry whose step fails, by list induction. -/
theorem mapM_eq_error_iff {step : α → Except ε β} {entries : List α} {failure : ε}
    : entries.mapM step = .error failure
      ↔ ∃ earlier entry later,
          entries = earlier ++ entry :: later
          ∧ (∀ other ∈ earlier, ∃ answer, step other = .ok answer)
          ∧ step entry = .error failure := by
  constructor
  · intro failed
    induction entries with
    | nil => cases failed
    | cons entry rest ih =>
        rw [List.mapM_cons, bind_eq_error_iff] at failed
        rcases failed with first | ⟨answer, first, failed⟩
        · exact ⟨[], entry, rest, rfl, by simp, first⟩
        · rw [bind_eq_error_iff] at failed
          rcases failed with failed | ⟨answers, -, ended⟩
          · obtain ⟨earlier, stop, later, rfl, fine, own⟩ := ih failed
            exact ⟨entry :: earlier, stop, later, rfl,
              List.forall_mem_cons.mpr ⟨⟨answer, first⟩, fine⟩, own⟩
          · cases ended
  · rintro ⟨earlier, entry, later, rfl, fine, own⟩
    induction earlier with
    | nil => rw [List.nil_append, List.mapM_cons, own, error_bind]
    | cons first rest ih =>
        obtain ⟨⟨answer, known⟩, others⟩ := List.forall_mem_cons.mp fine
        rw [List.cons_append, List.mapM_cons, known, ok_bind, ih others, error_bind]

end GridTable.Outcome
