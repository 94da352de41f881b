import GridTable.Proofs.Filter.Environment
import GridTable.Proofs.Together

/-! Filters of an environment that are added to explicit ones: what is added, and when the variable
of a kind makes no difference.
-/

namespace GridTable

open Outcome

namespace Filter

variable {explicit : List Filter} {kind : Kind} {environment : Environment}

-----------------------------------------------------------------------------------------
-- What is added
-----------------------------------------------------------------------------------------

/-- The filters of those kinds that no explicit filter has. -/
def missing (explicit : List Filter) (known : List (Kind × List Filter)) : List Filter :=
  known.flatMap fun entry =>
    if explicit.any fun filter => filter.kind == entry.1 then [] else entry.2

/-- What is added is noted, kind by kind, but never fails. -/
theorem outcome_appendMissing (explicit : List Filter) (known : List (Kind × List Filter))
    : (appendMissing explicit known).outcome = .ok (missing explicit known) := by
  induction known with
  | nil => rfl
  | cons entry rest ih =>
      rw [missing] at ih ⊢
      rw [List.flatMap_cons, appendMissing]
      by_cases held : explicit.any fun filter => filter.kind == entry.1
      · simp [held, ih]
      · by_cases empty : entry.2.isEmpty
        · simp [held, ih, List.isEmpty_iff.mp empty]
        · simp [held, ih, empty, Pure.pure]

theorem outcome_merge (explicit : List Filter) (environment : Environment)
    : (merge explicit environment).outcome
      = (do
          let known ← environment.filters
          pure (explicit ++ missing explicit known)) := by
  simp only [merge, Traced.outcome_bind, Traced.outcome_liftM, outcome_appendMissing, ok_bind,
    Traced.outcome_pure]

/-- Where no variable is set, nothing is added. -/
theorem outcome_merge_nil (explicit : List Filter)
    : (merge explicit []).outcome = .ok explicit := by
  have none : Environment.filters [] = .ok (Kind.all.map fun kind => (kind, [])) := rfl
  rw [outcome_merge, none, ok_bind]
  simp [missing, Kind.all, Pure.pure, Except.pure]

-----------------------------------------------------------------------------------------
-- What makes no difference
-----------------------------------------------------------------------------------------

/-- Some variable that is read before that of a kind cannot be read. -/
def IsRefusedBefore (environment : Environment) (kind : Kind) : Prop :=
  ∃ before after,
    Kind.all = before ++ kind :: after
    ∧ ∃ other ∈ before, ∃ failure, environment.filtersOf other = .error failure

/-- Filters of environments that are the same but for one kind. -/
abbrev AlikeBut (kind : Kind) : List (Kind × List Filter) → List (Kind × List Filter) → Prop :=
  List.Forall₂ fun entry other => entry.1 = other.1 ∧ (entry.1 = kind ∨ entry.2 = other.2)

/-- Filters of a kind that is there already make no difference, entry by entry. -/
theorem appendMissing_eq (held : ∃ filter ∈ explicit, filter.kind = kind)
    {known others : List (Kind × List Filter)} (same : AlikeBut kind known others)
    : appendMissing explicit known = appendMissing explicit others := by
  have any : explicit.any fun filter => filter.kind == kind := by simpa using held
  induction same with
  | nil => rfl
  | @cons entry other rest more alike _ ih =>
      rcases entry with ⟨own, filters⟩
      rcases other with ⟨_, otherFilters⟩
      obtain ⟨rfl, rfl | rfl⟩ := alike
      · simp [appendMissing, any, ih]
      · rw [appendMissing, appendMissing, ih]

theorem ne_of_mem_before {before after : List Kind} (split : Kind.all = before ++ kind :: after)
    {other : Kind} (hm : other ∈ before)
    : other ≠ kind := by
  have distinct : Kind.all.Nodup := by decide
  rw [split, List.nodup_append] at distinct
  exact distinct.2.2 other hm kind List.mem_cons_self

variable {first second : Environment}

/-- A kind with the filters that its variable lists. -/
def kindRead (environment : Environment) (kind : Kind) : Except Failure (Kind × List Filter) := do
  let filters ← environment.filtersOf kind
  pure (kind, filters)

theorem filters_eq_mapM (environment : Environment)
    : environment.filters = Kind.all.mapM (kindRead environment) :=
  rfl

theorem kindRead_eq_error_iff {failure : Failure}
    : kindRead environment kind = .error failure
      ↔ environment.filtersOf kind = .error failure := by
  rw [kindRead]
  cases environment.filtersOf kind <;> simp

theorem exists_kindRead_eq_ok_iff
    : (∃ answer, kindRead environment kind = .ok answer)
      ↔ ∃ filters, environment.filtersOf kind = .ok filters := by
  rw [kindRead]
  cases environment.filtersOf kind <;> simp [Pure.pure, Except.pure]

/-- The variables are read as far as the first one that cannot be read. -/
theorem filters_eq_error_iff {failure : Failure}
    : environment.filters = .error failure
      ↔ ∃ before kind after,
          Kind.all = before ++ kind :: after
          ∧ (∀ other ∈ before, ∃ filters, environment.filtersOf other = .ok filters)
          ∧ environment.filtersOf kind = .error failure := by
  rw [filters_eq_mapM, mapM_eq_error_iff]
  simp only [exists_kindRead_eq_ok_iff, kindRead_eq_error_iff]

theorem kindRead_eq_of_ne
    (same : Environment.SameBut (Environment.filtersVariable kind) first second) {other : Kind}
    (apart : other ≠ kind)
    : kindRead first other = kindRead second other := by
  rw [kindRead, kindRead, same.filtersOf_eq]
  exact fun h => apart (Environment.filtersVariable_inj h)

theorem outcome_merge_eq_error_iff {failure : Failure}
    : (merge explicit environment).outcome = .error failure
      ↔ environment.filters = .error failure := by
  rw [outcome_merge, bind_eq_error_iff]
  simp

/-- Where the outcomes are the same, what is said of a variable is said in both. -/
theorem filtersOf_eq_error_of_merge {failure : Failure}
    (same : (merge explicit first).outcome = (merge explicit second).outcome)
    (heard : ¬IsRefusedBefore first kind) (failed : first.filtersOf kind = .error failure)
    : second.filtersOf kind = .error failure := by
  obtain ⟨before, after, split⟩ : ∃ before after, Kind.all = before ++ kind :: after :=
    List.append_of_mem (by cases kind <;> decide)
  have fine : ∀ other ∈ before, ∃ filters, first.filtersOf other = .ok filters := by
    intro other hm
    cases read : first.filtersOf other with
    | ok filters => exact ⟨filters, rfl⟩
    | error early => exact absurd ⟨before, after, split, other, hm, early, read⟩ heard
  have stopped : first.filters = .error failure :=
    filters_eq_error_iff.mpr ⟨before, kind, after, split, fine, failed⟩
  have ended : (merge explicit first).outcome = .error failure :=
    outcome_merge_eq_error_iff.mpr stopped
  have stoppedToo : second.filters = .error failure :=
    outcome_merge_eq_error_iff.mp (same.symm.trans ended)
  obtain ⟨-, other, -, -, -, own⟩ := filters_eq_error_iff.mp stoppedToo
  obtain ⟨issue, rfl⟩ := Environment.exists_issue_of_filtersOf failed
  obtain ⟨otherIssue, said⟩ := Environment.exists_issue_of_filtersOf own
  have sameName := (Error.configuration.inj (Failure.error.inj said)).1
  rwa [← Environment.filtersVariable_inj sameName] at own

theorem IsRefusedBefore.of_sameBut (refused : IsRefusedBefore first kind)
    (same : Environment.SameBut (Environment.filtersVariable kind) first second)
    : IsRefusedBefore second kind := by
  obtain ⟨before, after, split, other, hm, failure, failed⟩ := refused
  refine ⟨before, after, split, other, hm, failure, ?_⟩
  rw [← kindRead_eq_error_iff, ← kindRead_eq_of_ne same (ne_of_mem_before split hm)]
  exact kindRead_eq_error_iff.mpr failed

/-- An earlier variable that cannot be read ends the reading before that of the kind. -/
theorem filters_eq_of_isRefusedBefore
    (same : Environment.SameBut (Environment.filtersVariable kind) first second)
    (refused : IsRefusedBefore first kind)
    : first.filters = second.filters := by
  obtain ⟨before, after, split, other, hm, failure, failed⟩ := refused
  have alike : before.mapM (kindRead first) = before.mapM (kindRead second) :=
    mapM_congr fun own hown => kindRead_eq_of_ne same (ne_of_mem_before split hown)
  rw [filters_eq_mapM, filters_eq_mapM, split, List.mapM_append, List.mapM_append, ← alike]
  cases run : before.mapM (kindRead first) with
  | error early => rfl
  | ok known =>
      obtain ⟨answer, read⟩ := exists_answer_of_mem run hm
      cases read.symm.trans (kindRead_eq_error_iff.mpr failed)

theorem together_kindRead (said : Abreast (first.filtersOf kind) (second.filtersOf kind))
    : Together (fun entry other => entry.1 = other.1 ∧ (entry.1 = kind ∨ entry.2 = other.2))
        (kindRead first kind) (kindRead second kind) := by
  rw [kindRead, kindRead]
  exact said.bind fun _ _ _ => .ok ⟨rfl, Or.inl rfl⟩

/-- Where the same is said of the variable, the filters are the same but for the kind. -/
theorem together_filters
    (same : Environment.SameBut (Environment.filtersVariable kind) first second)
    (said : Abreast (first.filtersOf kind) (second.filtersOf kind))
    : Together (AlikeBut kind) first.filters second.filters := by
  refine .mapM fun own _ => ?_
  by_cases mine : own = kind
  · subst mine
    exact together_kindRead said
  · change Together _ (kindRead first own) (kindRead second own)
    rw [kindRead_eq_of_ne same mine]
    exact .refl (fun _ => ⟨rfl, Or.inr rfl⟩) _

/-- The same is said of the variable of a kind, if anything, or it is not come to. -/
def IsSaidAlike (first second : Environment) (kind : Kind) : Prop :=
  IsRefusedBefore first kind ∨ Abreast (first.filtersOf kind) (second.filtersOf kind)

/-- Environments that differ in the variable of a kind that is there already are merged alike if
the same is said of that variable.
-/
theorem merge_eq_of_isSaidAlike (held : ∃ filter ∈ explicit, filter.kind = kind)
    (same : Environment.SameBut (Environment.filtersVariable kind) first second)
    (said : IsSaidAlike first second kind)
    : merge explicit first = merge explicit second := by
  rcases said with refused | said
  · rw [merge, merge, filters_eq_of_isRefusedBefore same refused]
  · have alike := together_filters same said
    rw [merge, merge]
    generalize first.filters = known at alike ⊢
    generalize second.filters = others at alike ⊢
    cases alike with
    | error failure => rfl
    | @ok known others each =>
        have more := appendMissing_eq held each
        change (do pure (explicit ++ (← appendMissing explicit known)))
          = (do pure (explicit ++ (← appendMissing explicit others)))
        rw [more]

/-- The outcomes of merging are the same only then. -/
theorem isSaidAlike_of_outcome_merge
    (same : Environment.SameBut (Environment.filtersVariable kind) first second)
    (h : (merge explicit first).outcome = (merge explicit second).outcome)
    : IsSaidAlike first second kind := by
  by_cases refused : IsRefusedBefore first kind
  · exact Or.inl refused
  · have heard : ¬IsRefusedBefore second kind := fun h =>
      refused (h.of_sameBut fun other apart => (same other apart).symm)
    refine Or.inr ?_
    cases read : first.filtersOf kind with
    | error failure =>
        rw [filtersOf_eq_error_of_merge h refused read]
        exact .error failure
    | ok filters =>
        cases other : second.filtersOf kind with
        | ok others => exact .ok trivial
        | error failure =>
            rw [filtersOf_eq_error_of_merge h.symm heard other] at read
            cases read

end Filter

end GridTable
