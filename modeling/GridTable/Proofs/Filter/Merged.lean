import GridTable.Proofs.Filter.Merging

/-! What merging comes to: explicit filters first, then all that the environment lists for the
kinds of which there is no explicit one. Nothing is lost on the way, and no kind comes from both.
-/

namespace GridTable

open Outcome

-----------------------------------------------------------------------------------------
-- What a variable lists
-----------------------------------------------------------------------------------------

namespace Environment

variable {environment : Environment} {kind : Filter.Kind} {filters : List Filter}

/-- The filters of a kind are those that the texts of its variable describe, in that order. -/
theorem exists_texts_of_filtersOf (read : environment.filtersOf kind = .ok filters)
    : ∃ texts,
        environment.Lists kind texts
        ∧ (∀ text ∈ texts, IsListable kind text)
        ∧ List.Forall₂ (fun text filter => Filter.ofText kind text = .ok filter)
            texts filters := by
  let fields := Text.fields (separator kind) (environment.text (filtersVariable kind)).toList
  let items := fields.map String.ofList
  have joined : environment.text (filtersVariable kind)
      = (String.singleton (separator kind)).intercalate items := by
    rw [← String.toList_inj, String.toList_intercalate, String.toList_singleton, List.map_map]
    simp only [Function.comp_def, String.toList_ofList, List.map_id']
    exact (Text.intercalate_fields _ _).symm
  have lists : environment.Lists kind (items.filter fun item => !Text.blankText item.toList) :=
    ⟨items, joined, rfl⟩
  have listable : ∀ text ∈ items.filter (fun item => !Text.blankText item.toList),
      IsListable kind text := by
    intro text hm
    obtain ⟨own, filled⟩ := List.mem_filter.mp hm
    obtain ⟨field, hfield, rfl⟩ := List.mem_map.mp own
    refine ⟨by simpa using filled, ?_⟩
    rw [String.toList_ofList]
    exact Text.separator_notMem_of_mem_fields hfield
  rw [filtersOf_of_lists lists listable] at read
  refine ⟨_, lists, listable, (mapM_eq_ok_iff.mp read).imp fun text filter own => ?_⟩
  exact (saidOf_readItem kind text).eq_ok_iff.mpr own

theorem kind_of_mem_filtersOf (read : environment.filtersOf kind = .ok filters)
    {filter : Filter} (hm : filter ∈ filters)
    : filter.kind = kind := by
  obtain ⟨texts, -, -, each⟩ := exists_texts_of_filtersOf read
  obtain ⟨text, -, own⟩ := exists_entry_of_mem (mapM_eq_ok_iff.mpr each) hm
  exact ((Filter.ends_ofText kind text).of_ok own).2

end Environment

-----------------------------------------------------------------------------------------
-- What comes to be used
-----------------------------------------------------------------------------------------

namespace Filter

/-- Some filter of a list has the kind. -/
def HoldsKind (filters : List Filter) (kind : Kind) : Prop :=
  ∃ filter ∈ filters, filter.kind = kind

instance (filters : List Filter) (kind : Kind) : Decidable (HoldsKind filters kind) :=
  inferInstanceAs (Decidable (∃ filter ∈ filters, _))

/-- What is added of a kind: all that is listed for it, unless there is an explicit filter. -/
def added (explicit : List Filter) (listed : Kind → List Filter) (kind : Kind) : List Filter :=
  if HoldsKind explicit kind then [] else listed kind

variable {explicit : List Filter} {kind : Kind} {listed : Kind → List Filter}
variable {environment : Environment}

theorem missing_eq_flatMap_added (kinds : List Kind)
    : missing explicit (kinds.map fun kind => (kind, listed kind))
      = kinds.flatMap (added explicit listed) := by
  rw [missing, List.flatMap_map]
  congr
  funext kind
  have same : (explicit.any fun filter => filter.kind == kind) ↔ HoldsKind explicit kind := by
    simp [HoldsKind]
  by_cases held : HoldsKind explicit kind
  · rw [added, if_pos held, if_pos (same.mpr held)]
  · rw [added, if_neg held, if_neg (mt same.mp held)]

theorem outcome_merge_of_listed (read : ∀ kind, environment.filtersOf kind = .ok (listed kind))
    (explicit : List Filter)
    : (merge explicit environment).outcome
      = .ok (explicit ++ Kind.all.flatMap (added explicit listed)) := by
  have known : environment.filters = .ok (Kind.all.map fun kind => (kind, listed kind)) := by
    rw [filters_eq_mapM]
    refine mapM_eq_ok_map fun kind _ => ?_
    rw [kindRead, read kind, ok_bind]
    rfl
  rw [outcome_merge, known, ok_bind, missing_eq_flatMap_added]
  rfl

section OwnKinds

variable (own : ∀ kind, ∀ filter ∈ listed kind, filter.kind = kind)

include own

theorem kind_of_mem_added {filter : Filter} (hm : filter ∈ added explicit listed kind)
    : filter.kind = kind := by
  rw [added] at hm
  split at hm
  · cases hm
  · exact own kind filter hm

/-- What is added of several kinds has each of them as it is. -/
theorem filter_flatMap_added {kinds : List Kind} (distinct : kinds.Nodup)
    : (kinds.flatMap (added explicit listed)).filter (fun filter => filter.kind == kind)
      = if kind ∈ kinds then added explicit listed kind else [] := by
  induction kinds with
  | nil => rfl
  | cons first rest ih =>
      obtain ⟨apart, distinct⟩ := List.nodup_cons.mp distinct
      rw [List.flatMap_cons, List.filter_append, ih distinct]
      by_cases same : kind = first
      · subst same
        rw [List.filter_eq_self.mpr fun filter hm => by simp [kind_of_mem_added own hm],
          if_neg apart, if_pos List.mem_cons_self, List.append_nil]
      · rw [List.filter_eq_nil_iff.mpr fun filter hm => by
            simp [kind_of_mem_added own hm, Ne.symm same]]
        simp [same]

/-- Each kind is of one origin: it is explicit as a whole or listed as a whole. -/
theorem filter_merged
    : (explicit ++ Kind.all.flatMap (added explicit listed)).filter
        (fun filter => filter.kind == kind)
      = if HoldsKind explicit kind
          then explicit.filter fun filter => filter.kind == kind
          else listed kind := by
  have all : kind ∈ Kind.all := by cases kind <;> decide
  rw [List.filter_append, filter_flatMap_added own (by decide), if_pos all, added]
  split
  · rw [List.append_nil]
  · next absent =>
      have none : explicit.filter (fun filter => filter.kind == kind) = [] := by
        rw [List.filter_eq_nil_iff]
        intro filter hm same
        exact absent ⟨filter, hm, by simpa using same⟩
      rw [none, List.nil_append]

/-- A kind of which nothing is there after merging is one for which nothing is listed. -/
theorem added_merged
    : added (explicit ++ Kind.all.flatMap (added explicit listed)) listed kind = [] := by
  rw [added]
  split
  · rfl
  · next absent =>
      rw [List.eq_nil_iff_forall_not_mem]
      intro filter hm
      have mine : filter ∈ (explicit ++ Kind.all.flatMap (added explicit listed)).filter
          (fun filter => filter.kind == kind) := by
        rw [filter_merged own, if_neg fun held => ?_]
        · exact hm
        · obtain ⟨other, hother, same⟩ := held
          exact absent ⟨other, List.mem_append_left _ hother, same⟩
      obtain ⟨there, same⟩ := List.mem_filter.mp mine
      exact absent ⟨filter, there, by simpa using same⟩

end OwnKinds

/-- Merging keeps the explicit filters as they are, and appends all filters of an environment that
are of other kinds. Every text that a variable lists has its filter, in order; to merge again adds
nothing; and the filters of a kind are all explicit or all of the environment.
-/
theorem merge_loses_and_mixes_nothing (explicit : List Filter)
    (read : ∀ kind, environment.filtersOf kind = .ok (listed kind))
    : (∀ kind, ∃ texts,
        environment.Lists kind texts
        ∧ (∀ text ∈ texts, Environment.IsListable kind text)
        ∧ List.Forall₂ (fun text filter => ofText kind text = .ok filter) texts (listed kind))
      ∧ ∃ merged,
          (merge explicit environment).outcome = .ok merged
          ∧ merged
            = explicit
              ++ (added explicit listed .range ++ added explicit listed .list
                ++ added explicit listed .point2d ++ added explicit listed .point3d)
          ∧ (merge merged environment).outcome = .ok merged
          ∧ ∀ kind,
              merged.filter (fun filter => filter.kind == kind)
              = if HoldsKind explicit kind
                  then explicit.filter fun filter => filter.kind == kind
                  else listed kind := by
  have own : ∀ kind, ∀ filter ∈ listed kind, filter.kind = kind :=
    fun kind _ hm => Environment.kind_of_mem_filtersOf (read kind) hm
  refine ⟨fun kind => Environment.exists_texts_of_filtersOf (read kind),
    _, outcome_merge_of_listed read explicit, by simp [Kind.all], ?_, fun kind => filter_merged own⟩
  rw [outcome_merge_of_listed read]
  simp [added_merged own]

/-- Filters of three variables, of which one lists two texts and blanks. -/
def threeVariables : Environment :=
  [
    ("NC2PARQUET_RANGE_FILTERS", "x:0:1, ,x:2:3"),
    ("NC2PARQUET_LIST_FILTERS", "y:1,2;y:3"),
    ("NC2PARQUET_POINT3D_FILTERS", "t,y,x:5,1,1:0.5")
  ]

def threeListed : Kind → List Filter
  | .range => [range "x" 0.0 1.0, range "x" 2.0 3.0]
  | .list => [list "y" [1.0, 2.0] 0.0, list "y" [3.0] 0.0]
  | .point2d => []
  | .point3d => [point3d "t" "y" "x" [5.0] [(1.0, 1.0)] 0.5]

/-- An explicit filter of lists keeps those of the environment away, and only those. -/
theorem merge_loses_and_mixes_nothing_three
    : ∃ merged,
        (merge [list "z" [7.0] 0.0] threeVariables).outcome = .ok merged
        ∧ merged
          = [list "z" [7.0] 0.0, range "x" 0.0 1.0, range "x" 2.0 3.0,
              point3d "t" "y" "x" [5.0] [(1.0, 1.0)] 0.5]
        ∧ (merge merged threeVariables).outcome = .ok merged := by
  have read : ∀ kind, threeVariables.filtersOf kind = .ok (threeListed kind) := by
    intro kind
    cases kind <;> rfl
  obtain ⟨-, merged, done, rfl, again, -⟩ :=
    merge_loses_and_mixes_nothing [list "z" [7.0] 0.0] read
  exact ⟨_, done, by simp [added, HoldsKind, threeListed, Filter.kind], again⟩

end Filter

end GridTable
