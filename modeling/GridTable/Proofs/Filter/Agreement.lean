import GridTable.Proofs.Filter.Spelling

/-! Lines and entries that spell out the same filter. They agree, unless a separator among the
controls stands before or after a numeral: a line is trimmed of it, while an entry is not.
-/

namespace GridTable.Filter

open Outcome

-----------------------------------------------------------------------------------------
-- Parts of a line
-----------------------------------------------------------------------------------------

/-- The texts of a part, with commas in between. -/
def joined (texts : List String) : List Char :=
  [','].intercalate (texts.map String.toList)

@[simp] theorem joined_singleton (text : String) : joined [text] = text.toList := by
  simp [joined, List.intercalate]

/-- A numeral in a part of a line: it is not blank, and the blanks around it may stand there. -/
def IsPlainNumeral (text : String) : Prop :=
  ¬Text.blankText text.toList ∧ ',' ∉ text.toList ∧ Decimal.HasPlainEnds text.toList

variable {spelling : Spelling} {texts : List String}

theorem fields_joined (free : ∀ text ∈ texts, ',' ∉ text.toList) (given : texts ≠ [])
    : Text.fields ',' (joined texts) = texts.map String.toList := by
  refine Text.fields_intercalate ?_ (by simpa using given)
  intro _ hm
  obtain ⟨text, own, rfl⟩ := List.mem_map.mp hm
  exact free text own

theorem colon_notMem_joined (free : ∀ text ∈ texts, ':' ∉ text.toList) : ':' ∉ joined texts := by
  intro hm
  rcases Text.mem_or_of_mem_intercalate hm with same | ⟨_, hitem, within⟩
  · exact absurd same (by decide)
  · obtain ⟨text, own, rfl⟩ := List.mem_map.mp hitem
    exact free text own within

theorem toList_line (spelling : Spelling)
    : spelling.line.toList
      = [':'].intercalate ((spelling.names :: spelling.numerals).map joined) := by
  have part : String.toList ∘ ",".intercalate = joined :=
    funext fun texts => String.toList_intercalate
  rw [Spelling.line, String.toList_intercalate, List.map_map, part]
  rfl

/-- The parts between colons are those that were joined, but for the blanks around them. -/
theorem map_trim_fields_line (legible : spelling.IsLegible)
    : (Text.fields ':' (Text.trim spelling.line.toList)).map Text.trim
      = (spelling.names :: spelling.numerals).map fun texts => Text.trim (joined texts) := by
  have free : ∀ part ∈ (spelling.names :: spelling.numerals).map joined, ':' ∉ part := by
    intro _ hm
    obtain ⟨texts, own, rfl⟩ := List.mem_map.mp hm
    refine colon_notMem_joined fun text within => ?_
    rcases List.mem_cons.mp own with rfl | own
    · exact (legible.names text within).1
    · exact ((legible.numerals texts own).2 text within).2.1
  rw [Text.map_trim_fields_trim (by decide), toList_line,
    Text.fields_intercalate free (by simp), List.map_map]
  rfl

/-- A part with numerals is not blank. -/
theorem trim_joined_ne_nil (legible : spelling.IsLegible)
    (hm : texts ∈ spelling.numerals)
    : Text.trim (joined texts) ≠ [] := by
  obtain ⟨given, each⟩ := legible.numerals texts hm
  obtain ⟨text, own⟩ := List.exists_mem_of_ne_nil texts given
  intro empty
  refine (each text own).1 (List.all_eq_true.mpr fun c within => ?_)
  exact List.all_eq_true.mp (Text.trim_eq_nil_iff.mp empty) c
    (Text.mem_intercalate (List.mem_map_of_mem own) within)

/-- A line falls into its parts, unless the part with the names is empty. -/
theorem partsOf_line (legible : spelling.IsLegible)
    : partsOf spelling.kind spelling.line
      = if (Text.trim (joined spelling.names)).isEmpty
          then illegible (.layout spelling.line (usage spelling.kind))
          else
            pure ((spelling.names :: spelling.numerals).map fun texts =>
              Text.trim (joined texts)) := by
  have filled : (spelling.numerals.map fun texts => Text.trim (joined texts)).any List.isEmpty
      = false := by
    rw [List.any_eq_false]
    intro _ hm
    obtain ⟨texts, own, rfl⟩ := List.mem_map.mp hm
    simpa using trim_joined_ne_nil legible own
  rw [partsOf, map_trim_fields_line legible]
  simp only [List.map_cons, List.any_cons, filled, Bool.or_false]

-----------------------------------------------------------------------------------------
-- Numbers and names of a part
-----------------------------------------------------------------------------------------

/-- Entries that are numerals without the blanks around them denote the same numbers, by induction
on both lists.
-/
theorem mapM_readFloat?_of_isPadded {entries : List (List Char)}
    (padded : List.Forall₂ (fun entry text => Text.IsPadded entry text.toList) entries texts)
    (plain : ∀ text ∈ texts, IsPlainNumeral text)
    : (entries.filter fun entry => !Text.blankText entry).mapM Decimal.readFloat?
      = texts.mapM number? := by
  induction padded with
  | nil => rfl
  | @cons entry text entries texts own _ ih =>
      obtain ⟨⟨filled, -, ends⟩, later⟩ := List.forall_mem_cons.mp plain
      rw [own.blankText_eq] at filled
      rw [List.filter_cons_of_pos (by simpa using filled), List.mapM_cons, List.mapM_cons,
        ih later, number?, ends.readFloat?_eq own]

/-- The numbers of a part are those that its numerals denote. -/
theorem answers_numbersOf (given : texts ≠ []) (plain : ∀ text ∈ texts, IsPlainNumeral text)
    {count : Option Nat} (counted : ∀ number ∈ count, number = texts.length) (what : String)
    : Answers IsComplaint (texts.mapM number?)
        (numbersOf what count (Text.trim (joined texts))) := by
  have padded : List.Forall₂ (fun entry text => Text.IsPadded entry text.toList)
      (Text.fields ',' (Text.trim (joined texts))) texts := by
    have known := (Text.isPadded_trim (joined texts)).forall₂_fields
      (show ¬Text.isBlank ',' by decide)
    rwa [fields_joined (fun text own => (plain text own).2.1) given,
      List.forall₂_map_right_iff] at known
  simp only [numbersOf, mapM_readFloat?_of_isPadded padded plain]
  cases read : texts.mapM number? with
  | none => exact .none ⟨_, _, rfl⟩
  | some values =>
      have length : texts.length = values.length := (mapM_eq_some_iff.mp read).length_eq
      have filled : values ≠ [] := by
        rintro rfl
        exact given (List.length_eq_zero_iff.mp length)
      have fits : ¬(values.isEmpty || count.any (· != values.length)) := by
        cases count with
        | none => simpa using filled
        | some number => simpa [← length, counted number rfl] using filled
      dsimp only
      rw [if_neg fits]
      exact .some values

theorem answers_numberOf {text : String} (plain : IsPlainNumeral text) (what : String)
    : Answers IsComplaint (number? text) (numberOf what (Text.trim (joined [text]))) := by
  have read : Answers IsComplaint ((number? text).map fun number => [number])
      (numbersOf what (some 1) (Text.trim (joined [text]))) := by
    have alone : [text].mapM number? = (number? text).map fun number => [number] := by
      cases h : number? text <;> simp [h]
    rw [← alone]
    exact answers_numbersOf (by simp) (by simpa using plain) (by simp) what
  have kept : number? text = number? text >>= some := by
    cases number? text <;> rfl
  rw [kept, numberOf]
  exact read.bind_map fun number => .some number

/-- Two numerals of a part are the coordinates of a point. -/
theorem answers_pair {a b : String} (plain : ∀ text ∈ [a, b], IsPlainNumeral text)
    : Answers IsComplaint ((point? (a, b)).map fun point => [point.1, point.2])
        (numbersOf "point coordinates" (some 2) (Text.trim (joined [a, b]))) := by
  have listed : [a, b].mapM number? = (point? (a, b)).map fun point => [point.1, point.2] := by
    cases ha : number? a <;> cases hb : number? b <;> simp [point?, ha, hb]
  rw [← listed]
  exact answers_numbersOf (by simp) plain (by simp) _

/-- Three numerals of a part are a step and the coordinates of a point. -/
theorem answers_triple {step a b : String} (plain : ∀ text ∈ [step, a, b], IsPlainNumeral text)
    : Answers IsComplaint
        (((number? step).bind fun step => (point? (a, b)).map fun point => (step, point)).map
          fun coordinates => [coordinates.1, coordinates.2.1, coordinates.2.2])
        (numbersOf "point coordinates" (some 3) (Text.trim (joined [step, a, b]))) := by
  have listed : [step, a, b].mapM number?
      = ((number? step).bind fun step => (point? (a, b)).map fun point => (step, point)).map
          fun coordinates => [coordinates.1, coordinates.2.1, coordinates.2.2] := by
    cases hs : number? step <;> cases ha : number? a <;> cases hb : number? b <;>
      simp [point?, hs, ha, hb]
  rw [← listed]
  exact answers_numbersOf (by simp) plain (by simp) _

/-- The names of a part are those that were joined. -/
theorem namesOf_joined (legible : spelling.IsLegible)
    (given : spelling.names ≠ [])
    : namesOf (Text.trim (joined spelling.names)) = spelling.names := by
  have trimmed : spelling.names.map (Text.trim ∘ String.toList)
      = spelling.names.map String.toList :=
    List.map_congr_left fun name own => (legible.names name own).2.2
  have split := Text.map_trim_fields_trim (show ¬Text.isBlank ',' by decide)
    (joined spelling.names)
  rw [fields_joined (fun name own => (legible.names name own).2.1) given, List.map_map,
    trimmed] at split
  have names := congrArg (List.map String.ofList) split
  simpa [namesOf, List.map_map, Function.comp_def] using names

-----------------------------------------------------------------------------------------
-- Lines
-----------------------------------------------------------------------------------------

theorem isPlainNumeral_of_mem (legible : spelling.IsLegible) (plain : spelling.IsPlain)
    {text : String} (hpart : texts ∈ spelling.numerals) (hm : text ∈ texts)
    : IsPlainNumeral text := by
  obtain ⟨filled, -, free⟩ := (legible.numerals texts hpart).2 text hm
  exact ⟨filled, free, plain texts hpart text hm⟩

/-- A single name makes up its part. -/
theorem answers_partsOf_line (legible : spelling.IsLegible) {dimension : String}
    (alone : spelling.names = [dimension])
    : Answers IsComplaint
        ((name? dimension).map fun name =>
          name.toList :: spelling.numerals.map fun texts => Text.trim (joined texts))
        (partsOf spelling.kind spelling.line) := by
  have trimmed : Text.trim (joined spelling.names) = dimension.toList := by
    rw [alone, joined_singleton]
    exact (legible.names dimension (alone ▸ List.mem_singleton_self _)).2.2
  rw [partsOf_line legible, List.map_cons, trimmed, name?]
  by_cases empty : dimension = ""
  · rw [if_pos (by simp [empty]), if_pos (by simp [empty])]
    exact .none ⟨_, _, rfl⟩
  · rw [if_neg (by simpa using empty), if_neg (by simpa using empty)]
    exact .some _

/-- Several names make up a part that is not blank, even if all of them are empty. -/
theorem partsOf_line_of_names (legible : spelling.IsLegible) {first second : String}
    {more : List String} (several : spelling.names = first :: second :: more)
    : partsOf spelling.kind spelling.line
      = .ok ((spelling.names :: spelling.numerals).map fun texts => Text.trim (joined texts)) := by
  have comma : ',' ∈ joined spelling.names := by
    rw [several, joined, List.map_cons, List.intercalate_cons_of_ne_nil (by simp)]
    simp
  have filled : Text.trim (joined spelling.names) ≠ [] := by
    intro empty
    have blank := List.all_eq_true.mp (Text.trim_eq_nil_iff.mp empty) _ comma
    exact absurd blank (by decide)
  rw [partsOf_line legible, if_neg (by simpa using filled)]
  rfl

/-- No filter is meant where a name is empty. -/
theorem filter?_of_mem_names (empty : "" ∈ spelling.names) : spelling.filter? = none := by
  have none : name? "" = none := rfl
  cases spelling with
  | range dimension low high =>
      obtain rfl : "" = dimension := List.mem_singleton.mp empty
      rfl
  | list dimension values =>
      obtain rfl : "" = dimension := List.mem_singleton.mp empty
      rfl
  | point2d first second a b tolerance =>
      rcases List.mem_pair.mp empty with rfl | rfl
      · rfl
      · cases h : name? first <;> simp [Spelling.filter?, h, none]
  | point3d time first second step a b tolerance =>
      rcases List.mem_cons.mp empty with rfl | empty
      · rfl
      · rcases List.mem_pair.mp empty with rfl | rfl
        · cases h : name? time <;> simp [Spelling.filter?, h, none]
        · cases h : name? time <;> cases hf : name? first <;>
            simp [Spelling.filter?, h, hf, none]

theorem name?_of_ne {name : String} (filled : name ≠ "") : name? name = some name :=
  if_neg (by simpa using filled)

/-- The parts of a line are read from left to right, by kind. -/
theorem answers_ofText (legible : spelling.IsLegible) (plain : spelling.IsPlain)
    : Answers IsComplaint spelling.filter? (ofText spelling.kind spelling.line) := by
  have fine : ∀ texts ∈ spelling.numerals, ∀ text ∈ texts, IsPlainNumeral text :=
    fun _ hpart _ hm => isPlainNumeral_of_mem legible plain hpart hm
  cases spelling with
  | range dimension low high =>
      have fine : IsPlainNumeral low ∧ IsPlainNumeral high := by
        simpa [Spelling.numerals] using fine
      rw [ofText]
      refine (answers_partsOf_line legible rfl).bind_map fun dimension => ?_
      refine (answers_numberOf fine.1 _).bind fun low => ?_
      refine (answers_numberOf fine.2 _).bind fun high => ?_
      rw [String.ofList_toList]
      exact answers_check Iff.rfl ⟨_, _, rfl⟩
  | list dimension values =>
      have given : values ≠ [] := (legible.numerals values (List.mem_singleton_self _)).1
      have fine : ∀ text ∈ values, IsPlainNumeral text := fine values (List.mem_singleton_self _)
      rw [ofText]
      refine (answers_partsOf_line legible rfl).bind_map fun dimension => ?_
      refine (answers_numbersOf given fine (by simp) _).bind fun values => ?_
      rw [String.ofList_toList]
      exact answers_check Iff.rfl ⟨_, _, rfl⟩
  | point2d first second a b tolerance =>
      have fine : (∀ text ∈ [a, b], IsPlainNumeral text) ∧ IsPlainNumeral tolerance := by
        simpa [Spelling.numerals] using fine
      have names : namesOf (Text.trim (joined [first, second])) = [first, second] :=
        namesOf_joined legible (by simp [Spelling.names])
      rw [ofText, partsOf_line_of_names legible rfl, ok_bind]
      simp only [Spelling.kind, Spelling.names, Spelling.numerals, List.map_cons, List.map_nil,
        names]
      by_cases empty : first = "" ∨ second = ""
      · have meant : (Spelling.point2d first second a b tolerance).filter? = none :=
          filter?_of_mem_names (by simpa [Spelling.names, eq_comm] using empty)
        rw [meant, if_pos (by simpa using empty)]
        exact .none ⟨_, _, rfl⟩
      · have filled : first ≠ "" ∧ second ≠ "" := not_or.mp empty
        have meant : (Spelling.point2d first second a b tolerance).filter?
            = (do
                let point ← point? (a, b)
                let tolerance ← number? tolerance
                sensible? (.point2d first second [point] tolerance)) := by
          cases h : point? (a, b) <;>
            simp [Spelling.filter?, name?_of_ne filled.1, name?_of_ne filled.2, h]
        rw [meant, if_neg (by simpa using filled)]
        refine (answers_pair fine.1).bind_map fun point => ?_
        refine (answers_numberOf fine.2 _).bind fun tolerance => ?_
        exact answers_check Iff.rfl ⟨_, _, rfl⟩
  | point3d time first second step a b tolerance =>
      have fine : (∀ text ∈ [step, a, b], IsPlainNumeral text) ∧ IsPlainNumeral tolerance := by
        simpa [Spelling.numerals] using fine
      have names : namesOf (Text.trim (joined [time, first, second])) = [time, first, second] :=
        namesOf_joined legible (by simp [Spelling.names])
      rw [ofText, partsOf_line_of_names legible rfl, ok_bind]
      simp only [Spelling.kind, Spelling.names, Spelling.numerals, List.map_cons, List.map_nil,
        names]
      by_cases empty : time = "" ∨ first = "" ∨ second = ""
      · have meant : (Spelling.point3d time first second step a b tolerance).filter? = none :=
          filter?_of_mem_names (by simpa [Spelling.names, eq_comm] using empty)
        rw [meant, if_pos (by simpa [or_assoc] using empty)]
        exact .none ⟨_, _, rfl⟩
      · have filled : time ≠ "" ∧ first ≠ "" ∧ second ≠ "" := by simpa using empty
        have meant : (Spelling.point3d time first second step a b tolerance).filter?
            = (do
                let coordinates ← (number? step).bind fun step =>
                  (point? (a, b)).map fun point => (step, point)
                let tolerance ← number? tolerance
                sensible?
                  (.point3d time first second [coordinates.1] [coordinates.2] tolerance)) := by
          cases h : number? step <;> cases hp : point? (a, b) <;>
            simp [Spelling.filter?, name?_of_ne filled.1, name?_of_ne filled.2.1,
              name?_of_ne filled.2.2, h, hp]
        rw [meant, if_neg (by simpa [and_assoc] using filled)]
        refine (answers_triple fine.1).bind_map fun coordinates => ?_
        refine (answers_numberOf fine.2 _).bind fun tolerance => ?_
        exact answers_check Iff.rfl ⟨_, _, rfl⟩

-----------------------------------------------------------------------------------------
-- Agreement
-----------------------------------------------------------------------------------------

/-- A computation says what is wrong with the configuration. -/
def Complains {α : Type} (outcome : Except Failure α) : Prop :=
  ∃ failure, outcome = .error failure ∧ IsComplaint failure

/-- Either all of some outcomes are the same filter, or all are complaints. -/
def Agree (outcomes : List (Except Failure Filter)) : Prop :=
  (∃ filter, ∀ outcome ∈ outcomes, outcome = .ok filter)
  ∨ ∀ outcome ∈ outcomes, Complains outcome

theorem Answers.complains {outcome : Except Failure Filter}
    (h : Answers IsComplaint Option.none outcome)
    : Complains outcome := by
  cases h with
  | none failed => exact ⟨_, rfl, failed⟩

/-- Outcomes that answer the same meaning agree. -/
theorem agree_of_answers {meant : Option Filter} {outcomes : List (Except Failure Filter)}
    (h : ∀ outcome ∈ outcomes, Answers IsComplaint meant outcome)
    : Agree outcomes := by
  cases meant with
  | none => exact Or.inr fun outcome hm => (h outcome hm).complains
  | some filter =>
      refine Or.inl ⟨filter, fun outcome hm => ?_⟩
      cases h outcome hm with
      | some => rfl

theorem hasPlainEnds_of_number? {text : String} {number : Float}
    (read : number? text = some number)
    : Decimal.HasPlainEnds text.toList :=
  Decimal.hasPlainEnds_of_readFloat? read

theorem hasPlainEnds_of_mapM {numbers : List Float} (read : texts.mapM number? = some numbers)
    {text : String} (hm : text ∈ texts)
    : Decimal.HasPlainEnds text.toList := by
  cases own : number? text with
  | none => cases read.symm.trans (mapM_eq_none_iff.mpr ⟨text, hm, own⟩)
  | some number => exact hasPlainEnds_of_number? own

theorem hasPlainEnds_of_points {a b : String} {points : List (Float × Float)}
    (read : [(a, b)].mapM point? = some points)
    : Decimal.HasPlainEnds a.toList ∧ Decimal.HasPlainEnds b.toList := by
  obtain ⟨point, _, own, -⟩ := List.forall₂_cons_left_iff.mp (mapM_eq_some_iff.mp read)
  simp only [point?, Option.bind_eq_bind, Option.bind_eq_some_iff] at own
  obtain ⟨_, first, _, second, -⟩ := own
  exact ⟨hasPlainEnds_of_number? first, hasPlainEnds_of_number? second⟩

/-- Where a filter is meant, all numerals denote numbers, by kind. -/
theorem isPlain_of_filter? {filter : Filter} (meant : spelling.filter? = some filter)
    : spelling.IsPlain := by
  cases spelling with
  | range dimension low high =>
      simp only [Spelling.filter?, Option.bind_eq_bind, Option.bind_eq_some_iff] at meant
      obtain ⟨_, -, _, lowRead, _, highRead, -⟩ := meant
      simpa [Spelling.IsPlain, Spelling.numerals]
        using ⟨hasPlainEnds_of_number? lowRead, hasPlainEnds_of_number? highRead⟩
  | list dimension values =>
      simp only [Spelling.filter?, Option.bind_eq_bind, Option.bind_eq_some_iff] at meant
      obtain ⟨_, -, _, read, -⟩ := meant
      simpa [Spelling.IsPlain, Spelling.numerals] using fun text hm => hasPlainEnds_of_mapM read hm
  | point2d first second a b tolerance =>
      simp only [Spelling.filter?, Option.bind_eq_bind, Option.bind_eq_some_iff] at meant
      obtain ⟨_, -, _, -, _, pointsRead, _, toleranceRead, -⟩ := meant
      obtain ⟨aEnds, bEnds⟩ := hasPlainEnds_of_points pointsRead
      simpa [Spelling.IsPlain, Spelling.numerals, and_assoc]
        using ⟨aEnds, bEnds, hasPlainEnds_of_number? toleranceRead⟩
  | point3d time first second step a b tolerance =>
      simp only [Spelling.filter?, Option.bind_eq_bind, Option.bind_eq_some_iff] at meant
      obtain ⟨_, -, _, -, _, -, _, stepsRead, _, pointsRead, _, toleranceRead, -⟩ := meant
      obtain ⟨aEnds, bEnds⟩ := hasPlainEnds_of_points pointsRead
      have stepEnds := hasPlainEnds_of_mapM stepsRead (List.mem_singleton_self step)
      simpa [Spelling.IsPlain, Spelling.numerals, and_assoc]
        using ⟨stepEnds, aEnds, bEnds, hasPlainEnds_of_number? toleranceRead⟩

theorem answers_ofEntry_nestedEntry (levels : Nat) (spelling : Spelling)
    : Answers IsComplaint spelling.filter? (ofEntry levels spelling.nestedEntry) := by
  rw [ofEntry_nestedEntry]
  exact answers_ofEntry_flatEntry levels spelling

/-- A line and both entries that spell out a filter agree where the blanks around the numerals may
stand there: all are read as the filter that is meant, or all are refused. Where other blanks do,
both entries are refused, and the line is read or refused. An entry may hold its parameters beside
the kind or in a member, whatever they are.
-/
theorem spellings_agree (levels : Nat)
    : (∀ spelling : Spelling,
        spelling.IsLegible
        → (spelling.IsPlain
            → Agree
                [
                  ofText spelling.kind spelling.line, ofEntry levels spelling.flatEntry,
                  ofEntry levels spelling.nestedEntry
                ]
              ∧ ∀ filter,
                  ofText spelling.kind spelling.line = .ok filter
                  ↔ spelling.filter? = some filter)
          ∧ (¬spelling.IsPlain
            → Complains (ofEntry levels spelling.flatEntry)
              ∧ Complains (ofEntry levels spelling.nestedEntry)
              ∧ Settles (ofText spelling.kind spelling.line)))
      ∧ ∀ (kind : Json) (before after : List (String × Json)),
          (∀ entry ∈ before ++ after, entry.1 ≠ "kind" ∧ entry.1 ≠ "params")
          → ofEntry levels (.obj [("kind", kind), ("params", .obj (before ++ after))])
            = ofEntry levels (.obj (before ++ ("kind", kind) :: after)) := by
  refine ⟨fun spelling legible => ⟨fun plain => ?_, fun misplaced => ?_⟩,
    fun kind before after free => ofEntry_nested_eq levels kind free⟩
  · have each : ∀ outcome ∈ [ofText spelling.kind spelling.line, ofEntry levels spelling.flatEntry,
        ofEntry levels spelling.nestedEntry], Answers IsComplaint spelling.filter? outcome := by
      intro outcome hm
      simp only [List.mem_cons, List.not_mem_nil, or_false] at hm
      rcases hm with rfl | rfl | rfl
      · exact answers_ofText legible plain
      · exact answers_ofEntry_flatEntry levels spelling
      · exact answers_ofEntry_nestedEntry levels spelling
    exact ⟨agree_of_answers each, fun filter => (answers_ofText legible plain).eq_ok_iff⟩
  · have none : spelling.filter? = none := by
      cases meant : spelling.filter? with
      | none => rfl
      | some filter => exact absurd (isPlain_of_filter? meant) misplaced
    have flat := answers_ofEntry_flatEntry levels spelling
    have nested := answers_ofEntry_nestedEntry levels spelling
    rw [none] at flat nested
    exact ⟨flat.complains, nested.complains,
      (ends_ofText _ _).imp (fun _ _ => trivial) fun _ => id⟩

/-- Spaces of several sorts and underscores in numerals are read alike by all ways. -/
def spaced : Spelling :=
  .point3d "t" "y" "x" " 5" "1_0" "2\u00a0" "0.5 "

theorem spellings_agree_spaced
    : spaced.line = "t,y,x: 5,1_0,2\u00a0:0.5 "
      ∧ Agree
          [ofText .point3d spaced.line, ofEntry 0 spaced.flatEntry, ofEntry 0 spaced.nestedEntry]
      ∧ ofText .point3d spaced.line = .ok (point3d "t" "y" "x" [5.0] [(10.0, 2.0)] 0.5)
      ∧ ofEntry 0 (.obj [("kind", .str "range"), ("params", .obj [("low", .null)])])
        = ofEntry 0 (.obj [("low", .null), ("kind", .str "range")]) := by
  have legible : spaced.IsLegible := ⟨by decide, by decide⟩
  have plain : spaced.IsPlain := by decide
  obtain ⟨alike, beside⟩ := spellings_agree 0
  exact ⟨by decide, ((alike spaced legible).1 plain).1, rfl,
    beside (.str "range") [("low", .null)] [] (by decide)⟩

/-- A separator among the controls before a numeral: the line is trimmed of it, and the entries are
refused.
-/
theorem spellings_disagree_separator
    : (Spelling.range "x" "\x1c0" "1").IsLegible
      ∧ ofText .range (Spelling.range "x" "\x1c0" "1").line = .ok (range "x" 0.0 1.0)
      ∧ Complains (ofEntry 0 (Spelling.range "x" "\x1c0" "1").flatEntry)
      ∧ ¬Agree
          [
            ofText .range (Spelling.range "x" "\x1c0" "1").line,
            ofEntry 0 (Spelling.range "x" "\x1c0" "1").flatEntry,
            ofEntry 0 (Spelling.range "x" "\x1c0" "1").nestedEntry
          ] := by
  have read : ofText .range (Spelling.range "x" "\x1c0" "1").line = .ok (range "x" 0.0 1.0) := rfl
  have refused : Complains (ofEntry 0 (Spelling.range "x" "\x1c0" "1").flatEntry) :=
    ⟨_, rfl, _, _, rfl⟩
  refine ⟨⟨by decide, by decide⟩, read, refused, ?_⟩
  rintro (⟨filter, same⟩ | all)
  · obtain ⟨failure, ended, -⟩ := refused
    cases ended.symm.trans (same _ (by simp))
  · obtain ⟨failure, ended, -⟩ := all _ (List.mem_cons_self)
    cases read.symm.trans ended

end GridTable.Filter
