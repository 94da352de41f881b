import GridTable.Proofs.Decimal.Numeral
import GridTable.Proofs.Filter.Compact
import GridTable.Proofs.Filter.Entry
import GridTable.Proofs.Keyed

/-! Filters that are spelled out in texts, as a line and as an entry: all ways to read them mean the
same filter, as long as the blanks around numerals are such as may stand there.
-/

namespace GridTable.Filter

open Outcome

-----------------------------------------------------------------------------------------
-- Spellings
-----------------------------------------------------------------------------------------

/-- A filter in texts: the names of its dimensions and its numerals. There is one point to a filter
of points, and one step.
-/
inductive Spelling where
  | range (dimension low high : String)
  | list (dimension : String) (values : List String)
  | point2d (first second a b tolerance : String)
  | point3d (time first second step a b tolerance : String)

/-- A point whose coordinates are texts. -/
def spelledPoint (point : String × String) : Json :=
  .arr [.str point.1, .str point.2]

namespace Spelling

def kind : Spelling → Kind
  | range .. => .range
  | list .. => .list
  | point2d .. => .point2d
  | point3d .. => .point3d

def names : Spelling → List String
  | range dimension _ _ => [dimension]
  | list dimension _ => [dimension]
  | point2d first second _ _ _ => [first, second]
  | point3d time first second _ _ _ _ => [time, first, second]

/-- The numerals, in the parts that they make up in a line. -/
def numerals : Spelling → List (List String)
  | range _ low high => [[low], [high]]
  | list _ values => [values]
  | point2d _ _ a b tolerance => [[a, b], [tolerance]]
  | point3d _ _ _ step a b tolerance => [[step, a, b], [tolerance]]

/-- The line of a filter: colons between the parts, and commas within. -/
def line (spelling : Spelling) : String :=
  ":".intercalate ((spelling.names :: spelling.numerals).map ",".intercalate)

/-- The parameters of a filter, numerals left as texts. -/
def parameters : Spelling → List (String × Json)
  | range dimension low high =>
      [("dimension_name", .str dimension), ("min_value", .str low), ("max_value", .str high)]
  | list dimension values =>
      [("dimension_name", .str dimension), ("values", .arr (values.map .str))]
  | point2d first second a b tolerance =>
      [
        ("lat_dimension_name", .str first), ("lon_dimension_name", .str second),
        ("points", .arr ([(a, b)].map spelledPoint)), ("tolerance", .str tolerance)
      ]
  | point3d time first second step a b tolerance =>
      [
        ("time_dimension_name", .str time), ("lat_dimension_name", .str first),
        ("lon_dimension_name", .str second), ("steps", .arr ([step].map .str)),
        ("points", .arr ([(a, b)].map spelledPoint)), ("tolerance", .str tolerance)
      ]

/-- The entry that holds the parameters itself. -/
def flatEntry (spelling : Spelling) : Json :=
  .obj (("kind", .str spelling.kind.word) :: spelling.parameters)

/-- The entry that holds the parameters in a member. -/
def nestedEntry (spelling : Spelling) : Json :=
  .obj [("kind", .str spelling.kind.word), ("params", .obj spelling.parameters)]

/-- Texts that can be told apart in a line. No name has blanks around it, though it may be empty;
no part is without numerals, and none of them is blank.
-/
structure IsLegible (spelling : Spelling) : Prop where
  names
    : ∀ name ∈ spelling.names,
        ':' ∉ name.toList ∧ ',' ∉ name.toList ∧ Text.trim name.toList = name.toList
  numerals
    : ∀ part ∈ spelling.numerals,
        part ≠ []
        ∧ ∀ text ∈ part,
            ¬Text.blankText text.toList ∧ ':' ∉ text.toList ∧ ',' ∉ text.toList

/-- The blanks around numerals are such as may stand there. -/
def IsPlain (spelling : Spelling) : Prop :=
  ∀ part ∈ spelling.numerals, ∀ text ∈ part, Decimal.HasPlainEnds text.toList

instance : DecidablePred IsPlain :=
  fun spelling => inferInstanceAs (Decidable (∀ part ∈ spelling.numerals, ∀ text ∈ part, _))

end Spelling

-----------------------------------------------------------------------------------------
-- What a spelling means
-----------------------------------------------------------------------------------------

instance : DecidablePred IsSenseless
  | range _ low high => inferInstanceAs (Decidable (low ≥ high))
  | list _ _ tolerance => inferInstanceAs (Decidable (tolerance < 0.0))
  | point2d _ _ _ tolerance => inferInstanceAs (Decidable (tolerance ≤ 0.0))
  | point3d _ _ _ _ _ tolerance => inferInstanceAs (Decidable (tolerance ≤ 0.0))

def name? (text : String) : Option String :=
  if text.isEmpty then none else some text

def number? (text : String) : Option Float :=
  Decimal.readFloat? text.toList

def point? (point : String × String) : Option (Float × Float) := do
  pure (← number? point.1, ← number? point.2)

def sensible? (filter : Filter) : Option Filter :=
  if filter.IsSenseless then none else some filter

/-- The filter that is meant: all names are there, all numerals denote numbers, and the settings are
not refused.
-/
def Spelling.filter? : Spelling → Option Filter
  | range dimension low high => do
      let dimension ← name? dimension
      let low ← number? low
      let high ← number? high
      sensible? (.range dimension low high)
  | list dimension values => do
      let dimension ← name? dimension
      let values ← values.mapM number?
      sensible? (.list dimension values 0.0)
  | point2d first second a b tolerance => do
      let first ← name? first
      let second ← name? second
      let points ← [(a, b)].mapM point?
      let tolerance ← number? tolerance
      sensible? (.point2d first second points tolerance)
  | point3d time first second step a b tolerance => do
      let time ← name? time
      let first ← name? first
      let second ← name? second
      let steps ← [step].mapM number?
      let points ← [(a, b)].mapM point?
      let tolerance ← number? tolerance
      sensible? (.point3d time first second steps points tolerance)

/-- A computation answers what is meant, and fails in some way where nothing is. -/
inductive Answers {α : Type} (fails : Failure → Prop) : Option α → Except Failure α → Prop
  | some (answer : α) : Answers fails (some answer) (.ok answer)
  | none {failure : Failure} (h : fails failure) : Answers fails none (.error failure)

namespace Answers

variable {α β : Type} {fails : Failure → Prop}

theorem bind {meant : Option α} {outcome : Except Failure α} {meantNext : α → Option β}
    {next : α → Except Failure β} (h : Answers fails meant outcome)
    (hnext : ∀ answer, Answers fails (meantNext answer) (next answer))
    : Answers fails (meant >>= meantNext) (outcome >>= next) := by
  cases h with
  | some answer => exact hnext answer
  | none failed => exact .none failed

theorem bind_map {γ : Type} {meant : Option α} {change : α → γ} {outcome : Except Failure γ}
    {meantNext : α → Option β} {next : γ → Except Failure β}
    (h : Answers fails (meant.map change) outcome)
    (hnext : ∀ answer, Answers fails (meantNext answer) (next (change answer)))
    : Answers fails (meant >>= meantNext) (outcome >>= next) := by
  cases meant with
  | none =>
      cases h with
      | none failed => exact .none failed
  | some answer =>
      cases h with
      | some => exact hnext answer

/-- Entries that are answered one by one are answered as a list, by list induction. -/
theorem mapM {meantOf : α → Option β} {step : α → Except Failure β}
    (h : ∀ entry, Answers fails (meantOf entry) (step entry)) (entries : List α)
    : Answers fails (entries.mapM meantOf) (entries.mapM step) := by
  induction entries with
  | nil => exact .some []
  | cons entry rest ih =>
      rw [List.mapM_cons, List.mapM_cons]
      exact (h entry).bind fun answer => ih.bind fun answers => .some (answer :: answers)

theorem eq_ok_iff {meant : Option α} {outcome : Except Failure α}
    (h : Answers fails meant outcome) {answer : α}
    : outcome = .ok answer ↔ meant = Option.some answer := by
  cases h with
  | some own => simp
  | none failed => simp

end Answers

/-- A check at the end refuses just what is senseless. -/
theorem answers_check {condition : Prop} [Decidable condition] {fails : Failure → Prop}
    {kind : Kind} {issue : Issue} {filter : Filter} (refused : filter.IsSenseless ↔ condition)
    (complaint : fails (.error (.configuration kind.word issue)))
    : Answers fails (sensible? filter)
        (if condition then senseless kind issue else pure filter) := by
  rw [sensible?]
  by_cases h : condition
  · rw [if_pos h, if_pos (refused.mpr h)]
    exact .none complaint
  · rw [if_neg h, if_neg (mt refused.mp h)]
    exact .some filter

-----------------------------------------------------------------------------------------
-- Entries
-----------------------------------------------------------------------------------------

/-- What is wrong with spelled parameters: a complaint, or a numeral that denotes no number. -/
def IsMisspelling (failure : Failure) : Prop :=
  IsComplaint failure ∨ failure = .fault .badValue

theorem isMisspelling_senseless (kind : Kind) (issue : Issue)
    : IsMisspelling (.error (.configuration kind.word issue)) :=
  Or.inl ⟨_, _, rfl⟩

theorem answers_readDimension (kind : Kind) (name : String)
    : Answers IsMisspelling (name? name) (readDimension kind (.str name)) := by
  rw [name?, readDimension]
  split
  · exact .none (isMisspelling_senseless kind _)
  · exact .some name

theorem answers_toFloat (text : String)
    : Answers IsMisspelling (number? text) (Json.str text).toFloat := by
  rw [Json.toFloat_str, number?]
  cases Decimal.readFloat? text.toList with
  | none => exact .none (Or.inr rfl)
  | some number => exact .some number

theorem answers_readNumbers (texts : List String)
    : Answers IsMisspelling (texts.mapM number?) (readNumbers (.arr (texts.map .str))) := by
  change Answers _ _ ((texts.map Json.str).mapM Json.toFloat)
  rw [List.mapM_map]
  exact .mapM answers_toFloat texts

theorem answers_readPoint (levels : Nat) (kind : Kind) (point : String × String)
    : Answers IsMisspelling (point? point) (readPoint levels kind (spelledPoint point)) :=
  (answers_toFloat point.1).bind fun _ => (answers_toFloat point.2).bind fun _ => .some _

theorem answers_readPoints (levels : Nat) (kind : Kind) (points : List (String × String))
    : Answers IsMisspelling (points.mapM point?)
        (readPoints levels kind (.arr (points.map spelledPoint))) := by
  change Answers _ _ ((points.map spelledPoint).mapM (readPoint levels kind))
  rw [List.mapM_map]
  exact .mapM (answers_readPoint levels kind) points

variable {spelling : Spelling}

/-- Spelled parameters are read in the order in which their meaning is found, by kind. -/
theorem answers_ofNamedParameters (levels : Nat) (spelling : Spelling)
    : Answers IsMisspelling spelling.filter?
        (ofNamedParameters levels spelling.kind spelling.parameters) := by
  cases spelling with
  | range dimension low high =>
      refine (answers_readDimension _ dimension).bind fun dimension => ?_
      refine (answers_toFloat low).bind fun low => (answers_toFloat high).bind fun high => ?_
      exact answers_check Iff.rfl (isMisspelling_senseless _ _)
  | list dimension values =>
      refine (answers_readDimension _ dimension).bind fun dimension => ?_
      refine (answers_readNumbers values).bind fun values => ?_
      -- A tolerance that is not given is zero, and zero is read.
      change Answers _ _ (checkedList dimension values 0.0)
      exact answers_check Iff.rfl (isMisspelling_senseless _ _)
  | point2d first second a b tolerance =>
      refine (answers_readDimension _ first).bind fun first => ?_
      refine (answers_readDimension _ second).bind fun second => ?_
      refine (answers_readPoints _ _ [(a, b)]).bind fun points => ?_
      refine (answers_toFloat tolerance).bind fun tolerance => ?_
      exact answers_check Iff.rfl (isMisspelling_senseless _ _)
  | point3d time first second step a b tolerance =>
      refine (answers_readDimension _ time).bind fun time => ?_
      refine (answers_readDimension _ first).bind fun first => ?_
      refine (answers_readDimension _ second).bind fun second => ?_
      refine (answers_readNumbers [step]).bind fun steps => ?_
      refine (answers_readPoints _ _ [(a, b)]).bind fun points => ?_
      refine (answers_toFloat tolerance).bind fun tolerance => ?_
      exact answers_check Iff.rfl (isMisspelling_senseless _ _)

theorem namedParameters_spelled (spelling : Spelling)
    : namedParameters spelling.kind (spelling.parameters.map fun entry => (.str entry.1, entry.2))
      = .ok spelling.parameters := by
  cases spelling <;> rfl

/-- Whatever is wrong with spelled parameters is complained about. -/
theorem answers_ofParameters (levels : Nat) (spelling : Spelling)
    : Answers IsComplaint spelling.filter?
        (ofParameters levels spelling.kind
          (spelling.parameters.map fun entry => (.str entry.1, entry.2))) := by
  have read := answers_ofNamedParameters levels spelling
  rw [ofParameters, namedParameters_spelled, ok_bind]
  generalize spelling.filter? = meant at read ⊢
  generalize ofNamedParameters levels spelling.kind spelling.parameters = outcome at read ⊢
  cases read with
  | some filter => exact .some filter
  | none failed =>
      rcases failed with ⟨item, issue, rfl⟩ | rfl
      · exact .none ⟨item, issue, rfl⟩
      · exact .none ⟨_, _, rfl⟩

theorem answers_ofEntry_flatEntry (levels : Nat) (spelling : Spelling)
    : Answers IsComplaint spelling.filter? (ofEntry levels spelling.flatEntry) := by
  have known : kindOfEntry (("kind", .str spelling.kind.word) :: spelling.parameters)
      = .ok spelling.kind := by
    cases spelling <;> rfl
  have given : parametersOfEntry (("kind", .str spelling.kind.word) :: spelling.parameters)
      = .ok (spelling.parameters.map fun entry => (.str entry.1, entry.2)) := by
    cases spelling <;> rfl
  rw [Spelling.flatEntry, ofEntry, known, ok_bind, given, ok_bind]
  exact answers_ofParameters levels spelling

/-- Parameters may stand beside the kind or in a member of their own, whatever they are. -/
theorem ofEntry_nested_eq (levels : Nat) {before after : List (String × Json)} (kind : Json)
    (free : ∀ entry ∈ before ++ after, entry.1 ≠ "kind" ∧ entry.1 ≠ "params")
    : ofEntry levels (.obj [("kind", kind), ("params", .obj (before ++ after))])
      = ofEntry levels (.obj (before ++ ("kind", kind) :: after)) := by
  have noKind : "kind" ∉ Keyed.names before := by
    intro hm
    obtain ⟨entry, own, same⟩ := List.mem_map.mp hm
    exact (free entry (List.mem_append_left _ own)).1 same
  have noParams : ¬(Keyed.find? "params" (before ++ ("kind", kind) :: after)).isSome := by
    rw [Keyed.isSome_find?_iff]
    intro hm
    obtain ⟨entry, own, same⟩ := List.mem_map.mp hm
    rcases List.mem_append.mp own with early | late
    · exact (free entry (List.mem_append_left _ early)).2 same
    · rcases List.mem_cons.mp late with rfl | late
      · simp at same
      · exact (free entry (List.mem_append_right _ late)).2 same
  have named : Keyed.find? "kind" (before ++ ("kind", kind) :: after) = some kind := by
    rw [Keyed.find?_append_of_notMem noKind, Keyed.find?, if_pos rfl]
  have kept : (before ++ ("kind", kind) :: after).filter (fun entry => entry.1 != "kind")
      = before ++ after := by
    rw [List.filter_append, List.filter_cons_of_neg (by simp), ← List.filter_append,
      List.filter_eq_self]
    exact fun entry hm => by simpa using (free entry hm).1
  have sameKind : kindOfEntry [("kind", kind), ("params", .obj (before ++ after))]
      = kindOfEntry (before ++ ("kind", kind) :: after) := by
    rw [kindOfEntry, kindOfEntry, named]
    rfl
  have sameParameters : parametersOfEntry [("kind", kind), ("params", .obj (before ++ after))]
      = parametersOfEntry (before ++ ("kind", kind) :: after) := by
    rw [parametersOfEntry, parametersOfEntry, Option.not_isSome_iff_eq_none.mp noParams, kept]
    rfl
  rw [ofEntry, ofEntry, sameKind, sameParameters]

theorem ofEntry_nestedEntry (levels : Nat) (spelling : Spelling)
    : ofEntry levels spelling.nestedEntry = ofEntry levels spelling.flatEntry := by
  have free : ∀ entry ∈ [] ++ spelling.parameters, entry.1 ≠ "kind" ∧ entry.1 ≠ "params" := by
    cases spelling <;> simp [Spelling.parameters]
  exact ofEntry_nested_eq levels (.str spelling.kind.word) free

end GridTable.Filter
