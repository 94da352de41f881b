import GridTable.Journal
import GridTable.Proofs.Outcome

/-! How computations end, apart from what they note in the journal.
-/

namespace GridTable

namespace Traced

variable {α β : Type}

@[simp] theorem outcome_pure (answer : α) : (pure answer : Traced α).outcome = pure answer :=
  rfl

@[simp] theorem outcome_bind (first : Traced α) (next : α → Traced β)
    : (first >>= next).outcome = first.outcome >>= fun answer => (next answer).outcome := by
  cases h : first.outcome with
  | ok answer => rw [bind_ok next h]; rfl
  | error failure => rw [bind_error next h]; rfl

@[simp] theorem outcome_map (change : α → β) (run : Traced α)
    : (change <$> run).outcome = change <$> run.outcome := by
  rw [map_eq_pure_bind, outcome_bind, map_eq_pure_bind]
  rfl

@[simp] theorem outcome_ofExcept (outcome : Except Failure α)
    : (ofExcept outcome).outcome = outcome :=
  rfl

@[simp] theorem outcome_liftM (outcome : Except Failure α)
    : (liftM outcome : Traced α).outcome = outcome :=
  rfl

@[simp] theorem outcome_attempt (run : Traced α) : run.attempt.outcome = .ok run.outcome :=
  rfl

@[simp] theorem outcome_note (event : Event) : (note event).outcome = .ok () :=
  rfl

@[simp] theorem outcome_debug (topic message : String) : (debug topic message).outcome = .ok () :=
  rfl

@[simp] theorem outcome_info (topic message : String) : (info topic message).outcome = .ok () :=
  rfl

@[simp] theorem outcome_fail (error : Error)
    : (fail error : Traced α).outcome = .error (.error error) :=
  rfl

end Traced

end GridTable
