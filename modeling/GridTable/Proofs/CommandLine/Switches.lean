import GridTable.CommandLine.Running
import GridTable.Proofs.CommandLine.Flags
import GridTable.Proofs.Filter.Merging

/-! Filters that are given by switches, and filters that are listed by variables: the same texts
mean the same filters, and of a text that describes no filter the same is said.
-/

namespace GridTable.CommandLine

open Outcome
open GridTable.Filter (Kind)

variable {line : List String} {flags : List Flag} {environment : Environment}

/-- The texts that are given for a kind. -/
def Flag.textsFor (kind : Kind) (flags : List Flag) : List String :=
  (flags.filter (·.kind = kind)).map Flag.text

/-- What is given by a flag is its text, unless it consists of two hyphens. -/
theorem Flag.content?_given {flag : Flag} (filled : flag.text ≠ "--")
    : flag.given.content? = some flag.text := by
  rw [given]
  split
  · have other : flag.text.toList ≠ ['-', '-'] := by
      intro same
      exact filled (String.toList_inj.mp same)
    rw [Given.ofJoined, if_neg other, Given.content?, String.ofList_toList]
  · rfl

/-- The texts of flags are read kind by kind. -/
theorem outcome_spelledFilters_flags (filled : ∀ flag ∈ flags, flag.text ≠ "--")
    : (spelledFilters [] (Flag.filters flags)).outcome
      = List.flatten <$> Kind.all.mapM fun kind =>
          (Flag.textsFor kind flags).mapM (Filter.ofText kind) := by
  have given (kind : Kind) : Flag.givenFor kind flags = (Flag.textsFor kind flags).map some := by
    rw [Flag.givenFor, Flag.textsFor, List.map_map]
    refine List.map_congr_left fun flag hm => ?_
    exact Flag.content?_given (filled flag (List.mem_of_mem_filter hm))
  have parted : Flag.filters flags
      = (Kind.all.map fun kind =>
          (Flag.textsFor kind flags).map fun text => (kind, some text)).flatten := by
    simp [Flag.filters, given, List.flatMap_def, Function.comp_def]
  have plain : (spelledFilters [] (Flag.filters flags)).outcome
      = readFilters (Flag.filters flags) := by
    simp only [spelledFilters, Traced.outcome_bind, Traced.outcome_liftM, Filter.outcome_merge_nil]
    exact bind_pure _
  rw [plain, parted, readFilters, ← flatten_mapM_mapM, List.mapM_map]
  refine congrArg _ (mapM_congr fun kind _ => ?_)
  simp only [Function.comp_def, List.mapM_map, Option.elim_some]

theorem flatten_mapM_pair {α : Type} (step : Kind → Except Failure (List α)) (kinds : List Kind)
    : (do
        let known ← kinds.mapM fun kind => do
          let answers ← step kind
          pure (kind, answers)
        pure (known.flatMap Prod.snd))
      = List.flatten <$> kinds.mapM step := by
  induction kinds with
  | nil => rfl
  | cons kind rest ih =>
      rw [flatten_mapM_cons, ← ih]
      simp

/-- The variables are read kind by kind as well. -/
theorem outcome_spelledFilters_nil (environment : Environment)
    : (spelledFilters environment []).outcome
      = List.flatten <$> Kind.all.mapM environment.filtersOf := by
  have none : readFilters [] = .ok [] := rfl
  rw [spelledFilters, Traced.outcome_bind, Traced.outcome_liftM, none, ok_bind,
    Filter.outcome_merge, ← flatten_mapM_pair]
  rfl

/-- A command line of an extraction. -/
def sampleLine : List String :=
  ["extract", "in.nc", "-v", "v", "-o", "out"]

/-- Texts of two kinds, one of them joined to its switch. -/
def sampleFlags : List Flag :=
  [⟨.list, "y:1,2", false⟩, ⟨.range, "x:0:1", true⟩, ⟨.list, "z:3", false⟩]

theorem taken_sampleFlags : ∀ flag ∈ sampleFlags, flag.IsTaken := by
  simp only [sampleFlags, List.forall_mem_cons]
  exact ⟨Or.inr rfl, Or.inl rfl, Or.inr rfl, by simp⟩

/-- The texts in two variables, one of which has blank items as well. -/
def sampleVariables : Environment :=
  [("NC2PARQUET_LIST_FILTERS", " ;y:1,2;;z:3"), ("NC2PARQUET_RANGE_FILTERS", "x:0:1")]

theorem lists_sampleVariables (kind : Kind)
    : sampleVariables.Lists kind (Flag.textsFor kind sampleFlags) := by
  cases kind with
  | range => exact ⟨["x:0:1"], by decide, by decide⟩
  | list => exact ⟨[" ", "y:1,2", "", "z:3"], by decide, by decide⟩
  | point2d | point3d => exact ⟨[], by decide, rfl⟩

/-- Let flags give texts, and let variables list the same ones. Then either some text in a word of
its own is for something else, and the command line is misused. Or the filters are the same; or the
first kind with a text that describes no filter is refused by both, for the same reason, only that
it is said of the variable there.
-/
theorem switches_mean_variables {level : Option Int} {input field output : String}
    {options : WriteOptions} (whole : "--" ∉ line)
    (asked : Invocation.ofArguments line = .ok ⟨level, .extract input field output [] options⟩)
    (filled : ∀ flag ∈ flags, flag.text ≠ "--")
    (listed : ∀ kind, environment.Lists kind (Flag.textsFor kind flags))
    (listable : ∀ flag ∈ flags, Environment.IsListable flag.kind flag.text)
    : (∃ flag ∈ flags, ¬flag.IsTaken)
        ∧ Invocation.ofArguments (line ++ flags.flatMap Flag.words) = .error .misuse
      ∨ ∃ texts,
          Invocation.ofArguments (line ++ flags.flatMap Flag.words)
            = .ok ⟨level, .extract input field output texts options⟩
          ∧ ((∃ filters,
                (spelledFilters [] texts).outcome = .ok filters
                ∧ (spelledFilters environment []).outcome = .ok filters)
              ∨ ∃ before kind after item issue,
                  Kind.all = before ++ kind :: after
                  ∧ (∀ other ∈ before, ∀ text ∈ Flag.textsFor other flags, ∃ filter,
                      Filter.ofText other text = .ok filter)
                  ∧ (∃ text ∈ Flag.textsFor kind flags,
                      Filter.ofText kind text = misconfigured item issue)
                  ∧ (spelledFilters [] texts).outcome = misconfigured item issue
                  ∧ (spelledFilters environment []).outcome
                    = misconfigured (Environment.filtersVariable kind) issue) := by
  by_cases lost : ∃ flag ∈ flags, ¬flag.IsTaken
  · exact Or.inl ⟨lost, ofArguments_append_flags_of_not_isTaken whole asked lost⟩
  have taken : ∀ flag ∈ flags, flag.IsTaken := by
    simpa using lost
  refine Or.inr ⟨Flag.filters flags, ofArguments_append_flags whole asked taken, ?_⟩
  have fit (kind : Kind)
      : ∀ text ∈ Flag.textsFor kind flags, Environment.IsListable kind text := by
    intro text hm
    obtain ⟨flag, own, rfl⟩ := List.mem_map.mp hm
    obtain ⟨given, same⟩ := List.mem_filter.mp own
    obtain rfl : flag.kind = kind := of_decide_eq_true same
    exact listable flag given
  have said (kind : Kind) := Environment.saidOf_filtersOf (listed kind) (fit kind)
  rw [outcome_spelledFilters_flags filled, outcome_spelledFilters_nil]
  cases run : Kind.all.mapM fun kind => (Flag.textsFor kind flags).mapM (Filter.ofText kind) with
  | ok groups =>
      have listed : Kind.all.mapM environment.filtersOf = .ok groups :=
        (mapM_eq_ok_congr fun kind _ _ => (said kind).eq_ok_iff).mp run
      exact Or.inl ⟨groups.flatten, rfl, by rw [listed]; rfl⟩
  | error failure =>
      obtain ⟨before, kind, after, split, fine, own⟩ := mapM_eq_error_iff.mp run
      obtain ⟨item, issue, rfl, refused⟩ := (said kind).of_error own
      obtain ⟨text, hm, rejected⟩ := exists_of_mapM_eq_error own
      have fineListed
          : ∀ other ∈ before, ∃ filters, environment.filtersOf other = .ok filters := by
        intro other hother
        obtain ⟨filters, read⟩ := fine other hother
        exact ⟨filters, (said other).eq_ok_iff.mp read⟩
      have listed : Kind.all.mapM environment.filtersOf
          = .error (.error (.configuration (Environment.filtersVariable kind) issue)) :=
        mapM_eq_error_iff.mpr ⟨before, kind, after, split, fineListed, refused⟩
      refine Or.inr ⟨before, kind, after, item, issue, split, ?_, ⟨text, hm, rejected⟩, rfl,
        by rw [listed]; rfl⟩
      intro other hother text hm
      obtain ⟨filters, read⟩ := fine other hother
      exact exists_answer_of_mem read hm

/-- Three switches on a command line mean what the two variables mean. -/
theorem switches_mean_variables_sample
    : ∃ texts filters,
        Invocation.ofArguments
            ["extract", "in.nc", "-v", "v", "-o", "out", "--list", "y:1,2", "--range=x:0:1",
              "--list", "z:3"]
          = .ok ⟨some 30, .extract "in.nc" "v" "out" texts ⟨none, false, false⟩⟩
        ∧ (spelledFilters [] texts).outcome = .ok filters
        ∧ (spelledFilters sampleVariables []).outcome = .ok filters := by
  have filled : ∀ flag ∈ sampleFlags, flag.text ≠ "--" := by
    decide
  have listable : ∀ flag ∈ sampleFlags, Environment.IsListable flag.kind flag.text := by
    decide
  have asked : Invocation.ofArguments sampleLine
      = .ok ⟨some 30, .extract "in.nc" "v" "out" [] ⟨none, false, false⟩⟩ := by
    decide
  rcases switches_mean_variables (by decide) asked filled lists_sampleVariables listable
    with ⟨lost, -⟩ | ⟨texts, given, same | ⟨-, kind, -, -, issue, -, -, -, -, refused⟩⟩
  · obtain ⟨flag, own, lost⟩ := lost
    exact absurd (taken_sampleFlags flag own) lost
  · obtain ⟨filters, switched, listed⟩ := same
    exact ⟨texts, filters, given, switched, listed⟩
  · have fine : (spelledFilters sampleVariables []).outcome.isOk := by decide +kernel
    rw [refused] at fine
    cases fine

/-- Texts that the variable of ranges lists, but its switch does not give: a text in a word of its
own that is taken for another switch, and two hyphens, which leave the switch void.
-/
theorem switches_miss_texts
    : Invocation.ofArguments (sampleLine ++ ["--range", "-x:0:1"]) = .error .misuse
      ∧ (spelledFilters [("NC2PARQUET_RANGE_FILTERS", "-x:0:1")] []).outcome.isOk
      ∧ Invocation.ofArguments (sampleLine ++ ["--range=--"])
        = .ok ⟨some 30, .extract "in.nc" "v" "out" [(.range, none)] ⟨none, false, false⟩⟩
      ∧ (spelledFilters [] [(.range, none)]).outcome = raiseFault .missingAttribute := by
  exact ⟨by decide +kernel, by decide +kernel, by decide +kernel, rfl⟩

end GridTable.CommandLine
