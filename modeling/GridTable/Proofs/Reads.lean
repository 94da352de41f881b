import GridTable.Proofs.Journal

/-! What computations read and in which order, apart from what they log.
-/

namespace GridTable

/-- Whether an event is that something is read. -/
def Event.isRead : Event → Bool
  | coordinateRead _ | pointsRead .. => true
  | logged _ => false

namespace Traced

variable {α β : Type}

/-- What a computation reads, in order. -/
def reads (run : Traced α) : List Event :=
  run.events.filter Event.isRead

@[simp] theorem reads_pure (answer : α) : (pure answer : Traced α).reads = [] :=
  rfl

@[simp] theorem reads_ofExcept (outcome : Except Failure α) : (ofExcept outcome).reads = [] :=
  rfl

@[simp] theorem reads_liftM (outcome : Except Failure α)
    : (liftM outcome : Traced α).reads = [] :=
  rfl

@[simp] theorem reads_attempt (run : Traced α) : run.attempt.reads = run.reads :=
  rfl

@[simp] theorem reads_debug (topic message : String) : (debug topic message).reads = [] :=
  rfl

@[simp] theorem reads_info (topic message : String) : (info topic message).reads = [] :=
  rfl

@[simp] theorem reads_fail (error : Error) : (fail error : Traced α).reads = [] :=
  rfl

theorem reads_bind_of_ok {first : Traced α} {answer : α} (next : α → Traced β)
    (h : first.outcome = .ok answer)
    : (first >>= next).reads = first.reads ++ (next answer).reads := by
  rw [bind_ok next h]
  exact List.filter_append ..

theorem reads_bind_of_error {first : Traced α} {failure : Failure} (next : α → Traced β)
    (h : first.outcome = .error failure)
    : (first >>= next).reads = first.reads := by
  rw [bind_error next h]
  rfl

/-- What has been read stays read, however a computation goes on. -/
theorem reads_prefix_bind (first : Traced α) (next : α → Traced β)
    : first.reads <+: (first >>= next).reads := by
  cases h : first.outcome with
  | ok answer =>
      rw [reads_bind_of_ok next h]
      exact List.prefix_append _ _
  | error failure => exact reads_bind_of_error next h ▸ List.prefix_rfl

/-- A computation follows a plan if it reads a first part of it, and all of it if it ends with an
answer.
-/
structure Follows (run : Traced α) (plan : List Event) : Prop where
  early : run.reads <+: plan
  whole : ∀ answer, run.outcome = .ok answer → run.reads = plan

namespace Follows

variable {run first : Traced α} {next : α → Traced β} {plan later : List Event}

theorem of_reads_eq (h : run.reads = plan) : run.Follows plan :=
  ⟨h ▸ List.prefix_rfl, fun _ _ => h⟩

/-- Plans are followed one after the other. -/
theorem bind (h : first.Follows plan)
    (hnext : ∀ answer, first.outcome = .ok answer → (next answer).Follows later)
    : (first >>= next).Follows (plan ++ later) := by
  cases outcome : first.outcome with
  | ok answer =>
      have others := hnext answer outcome
      have read := reads_bind_of_ok next outcome
      rw [h.whole answer outcome] at read
      constructor
      · rw [read]
        exact (List.prefix_append_right_inj plan).mpr others.early
      · intro last ends
        rw [outcome_bind, outcome, Outcome.ok_bind] at ends
        rw [read, others.whole last ends]
  | error failure =>
      constructor
      · rw [reads_bind_of_error next outcome]
        exact h.early.trans (List.prefix_append plan later)
      · intro last ends
        rw [outcome_bind, outcome] at ends
        cases ends

/-- What reads nothing delays no plan. -/
theorem after (silent : first.reads = [])
    (hnext : ∀ answer, first.outcome = .ok answer → (next answer).Follows plan)
    : (first >>= next).Follows plan :=
  (of_reads_eq silent).bind hnext

theorem andPure {change : α → β} (h : run.Follows plan)
    : (run >>= fun answer => pure (change answer)).Follows plan := by
  have both : (run >>= fun answer => pure (change answer)).Follows (plan ++ []) :=
    h.bind fun _ _ => of_reads_eq rfl
  rwa [List.append_nil] at both

end Follows

end Traced

end GridTable
