import Mathlib.Data.List.Forall2
import Mathlib.Data.List.Perm.Basic

/-! Computations that end with an answer or a failure, step by step and over lists.
-/

namespace GridTable.Outcome

variable {ε α β : Type}

@[simp] theorem ok_bind (answer : α) (next : α → Except ε β)
    : Except.ok answer >>= next = next answer :=
  rfl

@[simp] theorem error_bind (failure : ε) (next : α → Except ε β)
    : Except.error failure >>= next = .error failure :=
  rfl

@[simp] theorem map_ok (change : α → β) (answer : α)
    : change <$> (Except.ok answer : Except ε α) = .ok (change answer) :=
  rfl

@[simp] theorem map_error (change : α → β) (failure : ε)
    : change <$> (Except.error failure : Except ε α) = .error failure :=
  rfl

theorem pure_eq_ok_iff {answer other : α}
    : (pure answer : Except ε α) = .ok other ↔ answer = other := by
  simp [pure, Except.pure]

theorem bind_eq_ok_iff {first : Except ε α} {next : α → Except ε β} {answer : β}
    : first >>= next = .ok answer ↔ ∃ middle, first = .ok middle ∧ next middle = .ok answer := by
  cases first <;> simp

theorem bind_eq_error_iff {first : Except ε α} {next : α → Except ε β} {failure : ε}
    : first >>= next = .error failure
      ↔ first = .error failure ∨ ∃ middle, first = .ok middle ∧ next middle = .error failure := by
  cases first <;> simp

theorem exists_ok_of_isOk {outcome : Except ε α} (h : outcome.isOk)
    : ∃ answer, outcome = .ok answer := by
  cases outcome with
  | ok answer => exact ⟨answer, rfl⟩
  | error failure => cases h

/-- A list is gone through just if each entry has its own answer, by list induction. -/
theorem mapM_eq_ok_iff {step : α → Except ε β} {entries : List α} {answers : List β}
    : entries.mapM step = .ok answers
      ↔ List.Forall₂ (fun entry answer => step entry = .ok answer) entries answers := by
  induction entries generalizing answers with
  | nil => rw [List.mapM_nil, pure_eq_ok_iff, List.forall₂_nil_left_iff, eq_comm]
  | cons entry rest ih =>
      simp only [List.mapM_cons, bind_eq_ok_iff, pure_eq_ok_iff, ih,
        List.forall₂_cons_left_iff]
      constructor
      · rintro ⟨answer, first, others, later, rfl⟩
        exact ⟨answer, others, first, later, rfl⟩
      · rintro ⟨answer, others, first, later, rfl⟩
        exact ⟨answer, first, others, later, rfl⟩

theorem exists_mem_answers_of_mem {step : α → Except ε β} {entries : List α} {answers : List β}
    (h : entries.mapM step = .ok answers) {entry : α} (hm : entry ∈ entries)
    : ∃ answer ∈ answers, step entry = .ok answer := by
  induction mapM_eq_ok_iff.mp h with
  | nil => simp at hm
  | cons first rest ih =>
      rcases List.mem_cons.mp hm with rfl | hm
      · exact ⟨_, List.mem_cons_self, first⟩
      · obtain ⟨answer, ha, own⟩ := ih (mapM_eq_ok_iff.mpr rest) hm
        exact ⟨answer, List.mem_cons_of_mem _ ha, own⟩

theorem exists_answer_of_mem {step : α → Except ε β} {entries : List α} {answers : List β}
    (h : entries.mapM step = .ok answers) {entry : α} (hm : entry ∈ entries)
    : ∃ answer, step entry = .ok answer := by
  obtain ⟨answer, -, own⟩ := exists_mem_answers_of_mem h hm
  exact ⟨answer, own⟩

theorem exists_entry_of_mem {step : α → Except ε β} {entries : List α} {answers : List β}
    (h : entries.mapM step = .ok answers) {answer : β} (hm : answer ∈ answers)
    : ∃ entry ∈ entries, step entry = .ok answer := by
  induction mapM_eq_ok_iff.mp h with
  | nil => simp at hm
  | cons first rest ih =>
      rcases List.mem_cons.mp hm with rfl | hm
      · exact ⟨_, List.mem_cons_self, first⟩
      · obtain ⟨entry, hentry, own⟩ := ih (mapM_eq_ok_iff.mpr rest) hm
        exact ⟨entry, List.mem_cons_of_mem _ hentry, own⟩

/-- A list in another order is gone through as well, with the same answers in that order. -/
theorem mapM_of_perm {step : α → Except ε β} {entries reordered : List α} {answers : List β}
    (same : reordered.Perm entries) (h : entries.mapM step = .ok answers)
    : ∃ others, reordered.mapM step = .ok others ∧ others.Perm answers := by
  obtain ⟨others, each, swapped⟩ := List.perm_comp_forall₂ same (mapM_eq_ok_iff.mp h)
  exact ⟨others, mapM_eq_ok_iff.mpr each, swapped⟩

theorem mapM_eq_pure_map {m : Type → Type} [Monad m] [LawfulMonad m] {step : α → m β}
    {answerOf : α → β} {entries : List α}
    (h : ∀ entry ∈ entries, step entry = pure (answerOf entry))
    : entries.mapM step = pure (entries.map answerOf) := by
  induction entries with
  | nil => rfl
  | cons entry rest ih =>
      obtain ⟨hfirst, hrest⟩ := List.forall_mem_cons.mp h
      simp [List.mapM_cons, hfirst, ih hrest]

theorem mapM_eq_ok_map {step : α → Except ε β} {answerOf : α → β} {entries : List α}
    (h : ∀ entry ∈ entries, step entry = .ok (answerOf entry))
    : entries.mapM step = .ok (entries.map answerOf) :=
  mapM_eq_pure_map h

theorem mapM_congr {step other : α → Except ε β} {entries : List α}
    (h : ∀ entry ∈ entries, step entry = other entry)
    : entries.mapM step = entries.mapM other := by
  induction entries with
  | nil => rfl
  | cons entry rest ih =>
      obtain ⟨hfirst, hrest⟩ := List.forall_mem_cons.mp h
      rw [List.mapM_cons, List.mapM_cons, hfirst, ih hrest]

/-- Steps with the same answers for all entries have the same answers for a list. -/
theorem mapM_eq_ok_congr {step other : α → Except ε β} {entries : List α}
    (h : ∀ entry ∈ entries, ∀ answer, step entry = .ok answer ↔ other entry = .ok answer)
    {answers : List β}
    : entries.mapM step = .ok answers ↔ entries.mapM other = .ok answers := by
  induction entries generalizing answers with
  | nil => rfl
  | cons entry rest ih =>
      obtain ⟨hfirst, hrest⟩ := List.forall_mem_cons.mp h
      simp only [List.mapM_cons, bind_eq_ok_iff, hfirst, ih hrest]

theorem flatten_mapM_cons (step : α → Except ε (List β)) (entry : α) (rest : List α)
    : List.flatten <$> (entry :: rest).mapM step
      = (do
          let answers ← step entry
          let others ← List.flatten <$> rest.mapM step
          pure (answers ++ others)) := by
  cases h : step entry <;> cases hr : rest.mapM step <;>
    simp [List.mapM_cons, h, hr, pure, Except.pure]

/-- Going through the parts of a list is going through the list, by induction on the parts. -/
theorem flatten_mapM_mapM (step : α → Except ε β) (parts : List (List α))
    : List.flatten <$> parts.mapM (fun part => part.mapM step) = parts.flatten.mapM step := by
  induction parts with
  | nil => rfl
  | cons part rest ih => rw [flatten_mapM_cons, ih, List.flatten_cons, List.mapM_append]

/-- What fails in going through a list is the step of one of its entries. -/
theorem exists_of_mapM_eq_error {step : α → Except ε β} {entries : List α} {failure : ε}
    (h : entries.mapM step = .error failure)
    : ∃ entry ∈ entries, step entry = .error failure := by
  induction entries with
  | nil => simp [pure, Except.pure] at h
  | cons entry rest ih =>
      rw [List.mapM_cons] at h
      cases first : step entry with
      | error own =>
          rw [first, error_bind] at h
          obtain rfl := Except.error.inj h
          exact ⟨entry, List.mem_cons_self, first⟩
      | ok answer =>
          cases later : rest.mapM step with
          | error other =>
              rw [first, later, ok_bind, error_bind] at h
              obtain rfl := Except.error.inj h
              obtain ⟨found, hm, failed⟩ := ih later
              exact ⟨found, List.mem_cons_of_mem _ hm, failed⟩
          | ok others => simp [first, later, pure, Except.pure] at h

theorem exists_mapM_eq_ok {step : α → Except ε β} {entries : List α}
    (h : ∀ entry ∈ entries, ∃ answer, step entry = .ok answer)
    : ∃ answers, entries.mapM step = .ok answers := by
  cases run : entries.mapM step with
  | ok answers => exact ⟨answers, rfl⟩
  | error failure =>
      obtain ⟨entry, hm, failed⟩ := exists_of_mapM_eq_error run
      obtain ⟨answer, own⟩ := h entry hm
      cases failed.symm.trans own

/-- A search through a list finds nothing just if one entry is not found. -/
theorem mapM_eq_none_iff {find : α → Option β} {entries : List α}
    : entries.mapM find = none ↔ ∃ entry ∈ entries, find entry = none := by
  induction entries with
  | nil => simp
  | cons entry rest ih =>
      cases h : find entry <;> cases hr : rest.mapM find <;>
        simp_all [List.mapM_cons]

/-- A search through a list finds something for each entry, by list induction. -/
theorem mapM_eq_some_iff {find : α → Option β} {entries : List α} {found : List β}
    : entries.mapM find = some found
      ↔ List.Forall₂ (fun entry answer => find entry = some answer) entries found := by
  induction entries generalizing found with
  | nil => simp [eq_comm]
  | cons entry rest ih =>
      simp only [List.mapM_cons, Option.bind_eq_bind, Option.bind_eq_some_iff,
        Option.pure_def, Option.some.injEq, ih, List.forall₂_cons_left_iff]
      constructor
      · rintro ⟨answer, first, others, later, rfl⟩
        exact ⟨answer, others, first, later, rfl⟩
      · rintro ⟨answer, others, first, later, rfl⟩
        exact ⟨answer, first, others, later, rfl⟩

/-- Two searches for each entry are a search of the one kind for all and then of the other, by list
induction.
-/
theorem mapM_zipWith {γ δ : Type} {find : α → Option β} {search : α → Option γ}
    {join : β → γ → δ} {entries : List α}
    : entries.mapM (fun entry => do
        let first ← find entry
        let second ← search entry
        some (join first second))
      = (do
          let firsts ← entries.mapM find
          let seconds ← entries.mapM search
          some (List.zipWith join firsts seconds)) := by
  induction entries with
  | nil => rfl
  | cons entry rest ih =>
      rw [List.mapM_cons, List.mapM_cons, List.mapM_cons, ih]
      cases find entry <;> cases search entry <;> cases rest.mapM find <;>
        cases rest.mapM search <;> rfl

/-- What a search found is gone through like the entries that it was found for. -/
theorem mapM_of_mapM_eq_some {γ : Type} {find : α → Option β} {step : β → Except ε γ}
    {entries : List α} {found : List β} (h : entries.mapM find = some found)
    (otherwise : Except ε γ)
    : found.mapM step = entries.mapM fun entry => (find entry).elim otherwise step := by
  induction mapM_eq_some_iff.mp h with
  | nil => rfl
  | cons first rest ih =>
      rw [List.mapM_cons, List.mapM_cons, ih (mapM_eq_some_iff.mpr rest), first,
        Option.elim_some]

end GridTable.Outcome
