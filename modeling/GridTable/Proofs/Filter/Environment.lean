import GridTable.Filter.Environment
import GridTable.Proofs.Filter.Compact
import GridTable.Proofs.Journal
import GridTable.Proofs.Text.Fields

/-! Filters out of the environment: what a variable that lists texts comes to, and what is said of
a variable that cannot be read.
-/

namespace GridTable

open Outcome

namespace Environment

variable {environment : Environment} {kind : Filter.Kind} {texts : List String}

-----------------------------------------------------------------------------------------
-- Variables that list texts
-----------------------------------------------------------------------------------------

/-- A text that can be an item of a variable: it is not blank and holds no separator. -/
def IsListable (kind : Filter.Kind) (text : String) : Prop :=
  ¬Text.blankText text.toList ∧ separator kind ∉ text.toList

instance (kind : Filter.Kind) (text : String) : Decidable (IsListable kind text) :=
  inferInstanceAs (Decidable (_ ∧ _))

/-- The variable of a kind lists texts: it joins items, which are the texts and blanks in between.
A variable that is not set lists no texts.
-/
def Lists (environment : Environment) (kind : Filter.Kind) (texts : List String) : Prop :=
  ∃ items : List String,
    environment.text (filtersVariable kind)
      = (String.singleton (separator kind)).intercalate items
    ∧ items.filter (fun item => !Text.blankText item.toList) = texts

theorem separator_notMem_of_blankText {text : List Char} (blank : Text.blankText text)
    : separator kind ∉ text := by
  intro hm
  have own : Text.isBlank (separator kind) := List.all_eq_true.mp blank _ hm
  cases kind <;> cases own

/-- The items of a variable that lists texts are read text by text. -/
theorem filtersOf_of_lists (lists : environment.Lists kind texts)
    (listable : ∀ text ∈ texts, IsListable kind text)
    : environment.filtersOf kind = texts.mapM fun text => readItem kind text.toList := by
  obtain ⟨items, joined, rfl⟩ := lists
  have free : ∀ item ∈ items.map String.toList, separator kind ∉ item := by
    intro _ hm
    obtain ⟨item, own, rfl⟩ := List.mem_map.mp hm
    by_cases blank : Text.blankText item.toList
    · exact separator_notMem_of_blankText blank
    · exact (listable item (List.mem_filter.mpr ⟨own, by simpa using blank⟩)).2
  rw [filtersOf, joined, String.toList_intercalate, String.toList_singleton]
  cases items with
  | nil => simp [Text.fields, Text.blankText]
  | cons first rest =>
      rw [Text.fields_intercalate free (by simp), List.filter_map, List.mapM_map]
      simp only [Function.comp_def]

-----------------------------------------------------------------------------------------
-- Complaints about variables
-----------------------------------------------------------------------------------------

/-- Computations that end alike, except that the second one says of a given item what is wrong. -/
inductive SaidOf {α : Type} (item : String) : Except Failure α → Except Failure α → Prop
  | ok (answer : α) : SaidOf item (.ok answer) (.ok answer)
  | error (first : String) (issue : Issue)
    : SaidOf item (.error (.error (.configuration first issue)))
        (.error (.error (.configuration item issue)))

namespace SaidOf

variable {α β : Type} {item : String}

theorem eq_ok_iff {first second : Except Failure α} (h : SaidOf item first second) {answer : α}
    : first = .ok answer ↔ second = .ok answer := by
  cases h with
  | ok own => rfl
  | error other issue => exact iff_of_false nofun nofun

theorem of_error {first second : Except Failure α} (h : SaidOf item first second)
    {failure : Failure} (failed : first = .error failure)
    : ∃ other issue,
        failure = .error (.configuration other issue)
        ∧ second = .error (.error (.configuration item issue)) := by
  cases h with
  | ok own => cases failed
  | error other issue =>
      cases failed
      exact ⟨other, issue, rfl, rfl⟩

theorem bind {first second : Except Failure α} {next after : α → Except Failure β}
    (h : SaidOf item first second) (hnext : ∀ answer, SaidOf item (next answer) (after answer))
    : SaidOf item (first >>= next) (second >>= after) := by
  cases h with
  | ok answer => exact hnext answer
  | error other issue => exact .error other issue

/-- Steps that end alike for each entry end alike for a list, by list induction. -/
theorem mapM {entries : List α} {step other : α → Except Failure β}
    (h : ∀ entry ∈ entries, SaidOf item (step entry) (other entry))
    : SaidOf item (entries.mapM step) (entries.mapM other) := by
  induction entries with
  | nil => exact .ok []
  | cons entry rest ih =>
      obtain ⟨hfirst, hrest⟩ := List.forall_mem_cons.mp h
      rw [List.mapM_cons, List.mapM_cons]
      refine hfirst.bind fun answer => (ih hrest).bind fun answers => ?_
      exact .ok (answer :: answers)

end SaidOf

theorem saidOf_readItem (kind : Filter.Kind) (text : String)
    : SaidOf (filtersVariable kind) (Filter.ofText kind text) (readItem kind text.toList) := by
  rw [readItem, String.ofList_toList]
  cases read : Filter.ofText kind text with
  | ok filter => exact .ok filter
  | error failure =>
      obtain ⟨item, issue, rfl⟩ := (Filter.ends_ofText kind text).of_error read
      exact .error item issue

/-- A variable that lists texts is read as they are, but for what a complaint is said of. -/
theorem saidOf_filtersOf (lists : environment.Lists kind texts)
    (listable : ∀ text ∈ texts, IsListable kind text)
    : SaidOf (filtersVariable kind) (texts.mapM (Filter.ofText kind))
        (environment.filtersOf kind) := by
  rw [filtersOf_of_lists lists listable]
  exact .mapM fun text _ => saidOf_readItem kind text

theorem exists_issue_of_filtersOf {failure : Failure}
    (failed : environment.filtersOf kind = .error failure)
    : ∃ issue, failure = .error (.configuration (filtersVariable kind) issue) := by
  obtain ⟨item, -, own⟩ := exists_of_mapM_eq_error failed
  have said := saidOf_readItem kind (String.ofList item)
  rw [String.toList_ofList, own] at said
  generalize Filter.ofText kind (String.ofList item) = read at said
  cases said with
  | error first issue => exact ⟨issue, rfl⟩

-----------------------------------------------------------------------------------------
-- Environments that differ in one variable
-----------------------------------------------------------------------------------------

theorem filtersVariable_inj {other : Filter.Kind}
    (same : filtersVariable kind = filtersVariable other)
    : kind = other := by
  cases kind <;> cases other <;> first | rfl | exact absurd same (by decide)

/-- Environments that differ in one variable at most. -/
def SameBut (name : String) (first second : Environment) : Prop :=
  ∀ other, other ≠ name → first.text other = second.text other

theorem SameBut.filtersOf_eq {first second : Environment} {name : String}
    (same : SameBut name first second) (apart : filtersVariable kind ≠ name)
    : first.filtersOf kind = second.filtersOf kind := by
  rw [filtersOf, filtersOf, same _ apart]

end Environment

end GridTable
