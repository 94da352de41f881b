import GridTable.Proofs.Filter.Demands

/-! Filters out of JSON entries: which entries break the reading off with a fault, while whatever
else is wrong with an entry is reported as such.
-/

namespace GridTable

open Outcome

/-- A value without parts of its own; only such values can be looked up. -/
def Json.IsScalar : Json → Prop
  | .arr _ | .obj _ => False
  | _ => True

namespace Filter

variable {levels : Nat} {kind : Kind} {failure : Failure}
variable {members : List (String × Json)} {parameters : List (Json × Json)}

-----------------------------------------------------------------------------------------
-- Values that hold parameters
-----------------------------------------------------------------------------------------

/-- A name beside a value. -/
def IsPair (entry : Json) : Prop :=
  ∃ name value, entry.items = .ok [name, value] ∧ name.IsScalar

/-- Parameters are held by an object, or by what lists pairs. -/
inductive HoldsParameters : Json → Prop
  | members (members : List (String × Json)) : HoldsParameters (.obj members)
  | pairs {holder : Json} {entries : List Json} (listed : holder.items = .ok entries)
      (paired : ∀ entry ∈ entries, IsPair entry)
    : HoldsParameters holder

theorem eq_badType_of_items {value : Json} (failed : value.items = .error failure)
    : failure = .fault .badType := by
  cases value <;> cases failed
  all_goals rfl

/-- An entry is a pair or not by the number of its parts. Its name is looked at first, though. -/
theorem faultsUnless_pairOf (entry : Json) : FaultsUnless (IsPair entry) (pairOf entry) := by
  rw [pairOf, IsPair]
  cases listed : entry.items with
  | error failure =>
      cases eq_badType_of_items listed
      exact .fault (by simp) _
  | ok parts =>
      rcases parts with _ | ⟨name, _ | ⟨value, _ | ⟨more, rest⟩⟩⟩
      · exact .fault (by simp) .badValue
      · cases name <;> exact .fault (by simp) .badValue
      · cases name with
        | arr | obj => exact .fault (by simp [Json.IsScalar]) .badType
        | _ => exact .ok ⟨_, _, rfl, trivial⟩
      · cases name <;> exact .fault (by simp) .badValue

/-- What is no object is gone through entry by entry. -/
theorem parametersOf_of_ne {holder : Json} (other : ∀ members, holder ≠ .obj members)
    : parametersOf holder
      = (do
          let entries ← holder.items
          let pairs ← entries.mapM pairOf
          pure (pairs.foldl (fun known entry => assignParameter entry.1 entry.2 known) [])) := by
  cases holder with
  | obj members => exact absurd rfl (other members)
  | _ => rfl

theorem holdsParameters_iff_of_ne {holder : Json} (other : ∀ members, holder ≠ .obj members)
    : HoldsParameters holder
      ↔ ∃ entries, holder.items = .ok entries ∧ ∀ entry ∈ entries, IsPair entry := by
  constructor
  · rintro (⟨members⟩ | ⟨listed, paired⟩)
    · exact absurd rfl (other members)
    · exact ⟨_, listed, paired⟩
  · rintro ⟨entries, listed, paired⟩
    exact .pairs listed paired

theorem faultsUnless_parametersOf (holder : Json)
    : FaultsUnless (HoldsParameters holder) (parametersOf holder) := by
  by_cases other : ∀ members, holder ≠ .obj members
  · rw [parametersOf_of_ne other, holdsParameters_iff_of_ne other]
    cases listed : holder.items with
    | error failure =>
        cases eq_badType_of_items listed
        exact .fault (by simp) _
    | ok entries => simpa using (FaultsUnless.mapM fun entry _ => faultsUnless_pairOf entry).map _
  · obtain ⟨members, rfl⟩ := not_forall_not.mp other
    exact .ok (.members members)

-----------------------------------------------------------------------------------------
-- Names of parameters
-----------------------------------------------------------------------------------------

/-- Names that can be put in order: texts only, or numbers only. A single name is in order. -/
def AreSortable (names : List Json) : Prop :=
  names.length ≤ 1 ∨ (∀ name ∈ names, name.isText) ∨ ∀ name ∈ names, isNumber name

theorem faultsUnless_ascendingNames (names : List Json)
    : FaultsUnless (AreSortable names) (ascendingNames names) := by
  rw [ascendingNames]
  split
  · next sortable => exact .ok (by simpa [AreSortable, or_assoc] using sortable)
  · next unsortable => exact .fault (by simpa [AreSortable, or_assoc] using unsortable) _

/-- Names that a complaint can show: they can be put in order, and each of them can be shown. -/
structure AreListable (names : List Json) : Prop where
  sortable : AreSortable names
  showable : ∀ name ∈ names, name.IsShowable 0

theorem faultsUnless_listed (names : List Json)
    : FaultsUnless (AreListable names) (do
        let sorted ← ascendingNames names
        sorted.mapM (Json.shown 0)) := by
  have own := faultsUnless_ascendingNames names
  rw [ascendingNames] at own ⊢
  split at own
  · next inOrder =>
      rw [if_pos inOrder, pure_bind]
      have each := FaultsUnless.mapM fun name (_ : name ∈ Sorting.sort isBefore names) =>
        Json.faultsUnless_shown 0 name
      refine each.congr ⟨fun shown => ⟨own.exists_ok_iff.mp ⟨_, rfl⟩, fun name hm => ?_⟩,
        fun listable name hm => listable.showable name ?_⟩
      · exact shown name ((Sorting.sort_perm isBefore names).mem_iff.mpr hm)
      · exact (Sorting.sort_perm isBefore names).mem_iff.mp hm
  · next disordered =>
      rw [if_neg disordered]
      exact .fault (fun listable => own.faults_iff.mp (faults_raiseFault _) listable.sortable) _

/-- What is wrong with the names is always the same. -/
theorem eq_badType_of_namedParameters (failed : namedParameters kind parameters = .error failure)
    : failure = .fault .badType := by
  rw [namedParameters, bind_eq_error_iff] at failed
  rcases failed with early | ⟨named, -, late⟩
  · obtain ⟨⟨name, value⟩, -, own⟩ := exists_of_mapM_eq_error early
    cases name <;> cases own
    all_goals rfl
  · simp only at late
    split at late
    · cases late
    · cases late
      rfl

theorem areListable_of_namedParameters {named : List (String × Json)}
    (h : namedParameters kind parameters = .ok named)
    : AreListable (parameters.map Prod.fst) := by
  obtain ⟨texts, known, -⟩ := bind_eq_ok_iff.mp h
  have each : ∀ name ∈ parameters.map Prod.fst, ∃ text, name = .str text := by
    intro name hm
    obtain ⟨⟨name, value⟩, given, rfl⟩ := List.mem_map.mp hm
    obtain ⟨answer, own⟩ := exists_answer_of_mem known given
    cases name with
    | str text => exact ⟨text, rfl⟩
    | _ => cases own
  constructor
  · refine Or.inr (Or.inl fun name hm => ?_)
    obtain ⟨text, rfl⟩ := each name hm
    rfl
  · intro name hm
    obtain ⟨text, rfl⟩ := each name hm
    exact .str text

-----------------------------------------------------------------------------------------
-- Parameters of a kind
-----------------------------------------------------------------------------------------

/-- Some demand on the parameters breaks the reading off, and those before it are met. -/
def StopsFatally (levels : Nat) (kind : Kind) (named : List (String × Json)) : Prop :=
  ∃ earlier demand later,
    Demand.ofKind kind named = earlier ++ demand :: later
    ∧ (∀ other ∈ earlier, other.check levels kind = .ok ())
    ∧ demand.IsFatal levels

/-- The reading of the parameters ends with an escaping fault just if it stops fatally. -/
theorem exists_escaping_iff_stopsFatally {named : List (String × Json)}
    : (∃ failure, ofNamedParameters levels kind named = .error failure ∧ IsEscaping failure)
      ↔ StopsFatally levels kind named := by
  constructor
  · rintro ⟨-, ended, cause, rfl, escaping⟩
    have stopped := (honours_ofNamedParameters levels kind named).eq_fault_iff.mp ended
    obtain ⟨earlier, demand, later, split, fine, own⟩ := mapM_eq_error_iff.mp stopped
    exact ⟨earlier, demand, later, split, fun other hm => (fine other hm).elim fun _ met => met,
      Demand.exists_escaping_iff.mp ⟨_, own, cause, rfl, escaping⟩⟩
  · rintro ⟨earlier, demand, later, split, fine, fatal⟩
    obtain ⟨-, own, cause, rfl, escaping⟩ := Demand.exists_escaping_iff.mpr fatal
    have met : ∀ other ∈ earlier, ∃ answer, other.check levels kind = .ok answer :=
      fun other hm => ⟨(), fine other hm⟩
    have stopped : (Demand.ofKind kind named).mapM (Demand.check levels kind)
        = .error (.fault cause) :=
      mapM_eq_error_iff.mpr ⟨earlier, demand, later, split, met, own⟩
    exact ⟨_, (honours_ofNamedParameters levels kind named).eq_fault_iff.mpr stopped, cause, rfl,
      escaping⟩

/-- A complaint about the parameters shows their names in order, if it can. -/
theorem faults_namesComplaint_iff
    : Faults (do
        let names ← ascendingNames (parameters.map Prod.fst)
        let shown ← names.mapM (Json.shown 0)
        senseless kind (.parameters shown) : Except Failure Filter)
      ↔ ¬AreListable (parameters.map Prod.fst) := by
  rw [← bind_assoc, faults_bind_iff, (faultsUnless_listed _).faults_iff]
  simp [senseless, misconfigured]

theorem faults_ofParameters_iff
    : Faults (ofParameters levels kind parameters)
      ↔ ¬AreListable (parameters.map Prod.fst)
        ∨ ∃ named,
            namedParameters kind parameters = .ok named ∧ StopsFatally levels kind named := by
  rw [ofParameters]
  cases given : namedParameters kind parameters with
  | error failure =>
      cases eq_badType_of_namedParameters given
      simp only [error_bind, faults_namesComplaint_iff]
      simp
  | ok named =>
      have listable := areListable_of_namedParameters given
      simp only [ok_bind, listable, not_true_eq_false, false_or, Except.ok.injEq,
        exists_eq_left', ← exists_escaping_iff_stopsFatally]
      cases ofNamedParameters levels kind named with
      | ok filter => simp
      | error failure =>
          cases failure with
          | error reason => simp
          | fault cause =>
              cases cause with
              | badType => simpa [faults_namesComplaint_iff] using listable
              | badValue => simp [senseless, misconfigured]
              | _ => simp

-----------------------------------------------------------------------------------------
-- What passes
-----------------------------------------------------------------------------------------

theorem ends_readDimension (kind : Kind) (value : Json)
    : Ends (fun name => name ≠ "") IsRejection (readDimension kind value) := by
  cases value with
  | str name =>
      rw [readDimension]
      refine .ite (fun _ => (ends_misconfigured _ _).rejects) fun filled => .pure ?_
      simpa using filled
  | _ => exact (ends_misconfigured _ _).rejects

theorem ends_toFloat (value : Json) : Ends (fun _ => True) IsRejection value.toFloat := by
  cases value with
  | null | arr | obj => exact ends_raiseFault _
  | bool | float => exact .ok trivial
  | int n =>
      rw [Json.toFloat_int]
      cases Decimal.ofInt? n with
      | none => exact ends_raiseFault _
      | some x => exact .ok trivial
  | str text =>
      rw [Json.toFloat_str]
      cases Decimal.readFloat? text.toList with
      | none => exact ends_raiseFault _
      | some x => exact .ok trivial

theorem ends_items (value : Json) : Ends (fun _ => True) IsRejection value.items := by
  cases value with
  | str | arr | obj => exact .ok trivial
  | _ => exact ends_raiseFault _

theorem ends_readNumbers (listed : Json)
    : Ends (fun _ => True) IsRejection (readNumbers listed) := by
  refine (ends_items listed).bind fun entries _ => ?_
  exact (Ends.mapM fun entry _ => ends_toFloat entry).imp (fun _ _ => trivial) fun _ => id

theorem ends_readPoint (levels : Nat) (kind : Kind) (value : Json)
    : Ends (fun _ => True) IsRejection (readPoint levels kind value) := by
  refine (ends_items value).bind fun entries _ => ?_
  split
  · exact ends_raiseFault _
  · next a b _ =>
      refine (ends_toFloat a).bind fun a _ => (ends_toFloat b).bind fun b _ => ?_
      exact .pure trivial
  · exact (Json.rejects_shown levels value).bind fun _ _ => (ends_misconfigured _ _).rejects

theorem ends_readPoints (levels : Nat) (kind : Kind) (listed : Json)
    : Ends (fun _ => True) IsRejection (readPoints levels kind listed) := by
  refine (ends_items listed).bind fun entries _ => ?_
  exact (Ends.mapM fun entry _ => ends_readPoint levels kind entry).imp
    (fun _ _ => trivial) fun _ => id

/-- The names of the dimensions are read first and the tolerance last, by kind. -/
theorem ends_ofNamedParameters (levels : Nat) (kind : Kind) (named : List (String × Json))
    : Ends (fun filter => filter.Passes ∧ filter.kind = kind) IsRejection
        (ofNamedParameters levels kind named) := by
  cases kind with
  | range =>
      refine (ends_readDimension _ _).bind fun dimension filled => ?_
      refine (ends_toFloat _).bind fun low _ => ?_
      refine (ends_toFloat _).bind fun high _ => ?_
      exact (ends_checkedRange filled low high).rejects
  | list =>
      refine (ends_readDimension _ _).bind fun dimension filled => ?_
      refine (ends_readNumbers _).bind fun values _ => ?_
      refine (ends_toFloat _).bind fun tolerance _ => ?_
      exact (ends_checkedList filled values tolerance).rejects
  | point2d =>
      refine (ends_readDimension _ _).bind fun first filledFirst => ?_
      refine (ends_readDimension _ _).bind fun second filledSecond => ?_
      refine (ends_readPoints _ _ _).bind fun points _ => ?_
      refine (ends_toFloat _).bind fun tolerance _ => ?_
      exact (ends_checkedPoint2d ⟨filledFirst, filledSecond⟩ points tolerance).rejects
  | point3d =>
      refine (ends_readDimension _ _).bind fun time filledTime => ?_
      refine (ends_readDimension _ _).bind fun first filledFirst => ?_
      refine (ends_readDimension _ _).bind fun second filledSecond => ?_
      refine (ends_readNumbers _).bind fun steps _ => ?_
      refine (ends_readPoints _ _ _).bind fun points _ => ?_
      refine (ends_toFloat _).bind fun tolerance _ => ?_
      exact (ends_checkedPoint3d ⟨filledTime, filledFirst, filledSecond⟩ steps points
        tolerance).rejects

theorem ends_ofParameters (levels : Nat) (kind : Kind) (parameters : List (Json × Json))
    : Ends (fun filter => filter.Passes ∧ filter.kind = kind) IsRejection
        (ofParameters levels kind parameters) := by
  have reads : Ends (fun filter => filter.Passes ∧ filter.kind = kind) IsRejection
      (namedParameters kind parameters >>= ofNamedParameters levels kind) := by
    cases given : namedParameters kind parameters with
    | ok named => exact ends_ofNamedParameters levels kind named
    | error failure =>
        cases eq_badType_of_namedParameters given
        exact ends_raiseFault _
  rw [ofParameters]
  split
  · rw [← bind_assoc]
    exact (faultsUnless_listed _).rejects.bind fun _ _ => (ends_misconfigured _ _).rejects
  · exact (ends_misconfigured _ _).rejects
  · exact reads

theorem ends_kindOfEntry (members : List (String × Json))
    : Ends (fun _ => True) IsRejection (kindOfEntry members) := by
  rw [kindOfEntry]
  split
  · exact (ends_misconfigured _ _).rejects
  · split
    · exact .pure trivial
    · exact (ends_misconfigured _ _).rejects
  · exact ends_raiseFault _
  · exact ends_raiseFault _
  · exact (Json.rejects_shown 0 _).bind fun _ _ => (ends_misconfigured _ _).rejects

theorem ends_parametersOfEntry (members : List (String × Json))
    : Ends (fun _ => True) IsRejection (parametersOfEntry members) := by
  rw [parametersOfEntry]
  split
  · next holder _ =>
      exact (faultsUnless_parametersOf holder).rejects.imp (fun _ _ => trivial) fun _ => id
  · exact .pure trivial

/-- Whatever an entry is, it describes a filter that passes all checks, or it is rejected. -/
theorem ends_ofEntry (levels : Nat) (entry : Json)
    : Ends Passes IsRejection (ofEntry levels entry) := by
  cases entry with
  | obj members =>
      refine (ends_kindOfEntry members).bind fun kind _ => ?_
      refine (ends_parametersOfEntry members).bind fun parameters _ => ?_
      exact (ends_ofParameters levels kind parameters).imp (fun _ known => known.1) fun _ => id
  | _ => exact (ends_misconfigured _ _).rejects

-----------------------------------------------------------------------------------------
-- Faulty entries
-----------------------------------------------------------------------------------------

/-- What it means for an entry to be faulty: its kind cannot be looked up, or is an unknown one that
cannot be shown, or what stands for its parameters holds none, or their names cannot be listed, or a
value breaks the reading off.
-/
inductive IsFaultyEntry (levels : Nat) : Json → Prop
  | kind {members : List (String × Json)} {value : Json}
      (named : Keyed.find? "kind" members = some value)
      (unusable : ¬value.IsScalar ∨ ¬value.IsShowable 0)
    : IsFaultyEntry levels (.obj members)
  | holder {members : List (String × Json)} {kind : Kind} {holder : Json}
      (known : kindOfEntry members = .ok kind)
      (found : Keyed.find? "params" members = some holder) (empty : ¬HoldsParameters holder)
    : IsFaultyEntry levels (.obj members)
  | names {members : List (String × Json)} {kind : Kind} {parameters : List (Json × Json)}
      (known : kindOfEntry members = .ok kind)
      (given : parametersOfEntry members = .ok parameters)
      (unlistable : ¬AreListable (parameters.map Prod.fst))
    : IsFaultyEntry levels (.obj members)
  | value {members : List (String × Json)} {kind : Kind} {parameters : List (Json × Json)}
      {named : List (String × Json)}
      (known : kindOfEntry members = .ok kind)
      (given : parametersOfEntry members = .ok parameters)
      (complete : namedParameters kind parameters = .ok named)
      (fatal : StopsFatally levels kind named)
    : IsFaultyEntry levels (.obj members)

theorem faults_kindOfEntry_iff
    : Faults (kindOfEntry members)
      ↔ ∃ value,
          Keyed.find? "kind" members = some value ∧ (¬value.IsScalar ∨ ¬value.IsShowable 0) := by
  have complaint (value : Json)
      : Faults (do misconfigured "filter" (.kindUnknown (← value.shown 0)) : Except Failure Kind)
        ↔ ¬value.IsShowable 0 := by
    rw [faults_bind_iff, (Json.faultsUnless_shown 0 value).faults_iff]
    simp [misconfigured]
  rw [kindOfEntry]
  cases Keyed.find? "kind" members with
  | none => simp [misconfigured]
  | some value =>
      cases value with
      | null => simp [misconfigured, Json.IsScalar, Json.IsShowable.null]
      | str word =>
          simp only [Option.getD_some]
          cases Kind.ofWord? word <;>
            simp [misconfigured, Json.IsScalar, Json.IsShowable.str]
      | arr | obj => simp [Json.IsScalar]
      | bool | int | float => simp [complaint, Json.IsScalar]

theorem faults_parametersOfEntry_iff
    : Faults (parametersOfEntry members)
      ↔ ∃ holder, Keyed.find? "params" members = some holder ∧ ¬HoldsParameters holder := by
  rw [parametersOfEntry]
  cases Keyed.find? "params" members with
  | none => simp
  | some holder => simp [(faultsUnless_parametersOf holder).faults_iff]

/-- The reading of an entry faults just if the entry is faulty. -/
theorem faults_ofEntry_iff (levels : Nat) (entry : Json)
    : Faults (ofEntry levels entry) ↔ IsFaultyEntry levels entry := by
  cases entry with
  | obj members =>
      simp only [ofEntry, faults_bind_iff, faults_kindOfEntry_iff, faults_parametersOfEntry_iff,
        faults_ofParameters_iff]
      constructor
      · rintro (⟨value, named, unusable⟩ | ⟨kind, known, ⟨holder, found, empty⟩
          | ⟨parameters, given, unlistable | ⟨named, complete, fatal⟩⟩⟩)
        · exact .kind named unusable
        · exact .holder known found empty
        · exact .names known given unlistable
        · exact .value known given complete fatal
      · rintro (⟨named, unusable⟩ | ⟨known, found, empty⟩ | ⟨known, given, unlistable⟩
          | ⟨known, given, complete, fatal⟩)
        · exact Or.inl ⟨_, named, unusable⟩
        · exact Or.inr ⟨_, known, Or.inl ⟨_, found, empty⟩⟩
        · exact Or.inr ⟨_, known, Or.inr ⟨_, given, Or.inl unlistable⟩⟩
        · exact Or.inr ⟨_, known, Or.inr ⟨_, given, Or.inr ⟨_, complete, fatal⟩⟩⟩
  | _ =>
      refine iff_of_false ?_ nofun
      rintro ⟨cause, ended⟩
      cases ended

end Filter

end GridTable
