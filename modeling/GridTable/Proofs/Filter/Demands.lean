import GridTable.Filter.Entry
import GridTable.Proofs.Ends
import GridTable.Proofs.Faults
import GridTable.Proofs.Filter.Sense
import GridTable.Proofs.Json.Shown
import GridTable.Proofs.Together

/-! What is demanded of the parameters of a filter: their values are read one after the other, and
the reading stops at the first demand that is not met.
-/

namespace GridTable.Filter

open Outcome

-----------------------------------------------------------------------------------------
-- Demands
-----------------------------------------------------------------------------------------

/-- What is demanded of a value that is read. -/
inductive Demand where
  /-- A text that is not empty. -/
  | name (value : Json)
  /-- Something that lists entries. -/
  | listing (value : Json)
  /-- Two entries in a row. -/
  | pair (value : Json)
  | number (value : Json)

/-- The entries that a value lists; what lists none has none. -/
def entriesOf (value : Json) : List Json :=
  match value.items with
  | .ok entries => entries
  | .error _ => []

namespace Demand

/-- Whether a demand is met, and what is said if it is not. At most `levels` lists and objects in
each other are shown.
-/
def check (levels : Nat) (kind : Kind) : Demand → Except Failure Unit
  | name value => do
      let _ ← readDimension kind value
  | listing value => do
      let _ ← value.items
  | pair value => do
      match value, ← value.items with
      | .obj _, [_, _] => raiseFault .missingKey
      | _, [_, _] => pure ()
      | _, _ => senseless kind (.pointSize (← value.shown levels))
  | number value => do
      let _ ← value.toFloat

def numbers (listed : Json) : List Demand :=
  listing listed :: (entriesOf listed).map number

def point (value : Json) : List Demand :=
  pair value :: (entriesOf value).map number

def points (listed : Json) : List Demand :=
  listing listed :: (entriesOf listed).flatMap point

/-- All demands on the parameters of a kind, in the order in which they are made. -/
def ofKind (kind : Kind) (parameters : List (String × Json)) : List Demand :=
  let value (name : String) := parameter name parameters
  match kind with
  | .range =>
      [name (value "dimension_name"), number (value "min_value"), number (value "max_value")]
  | .list =>
      name (value "dimension_name")
        :: (numbers (value "values")
          ++ [number ((Keyed.find? "tolerance" parameters).getD (.float 0.0))])
  | .point2d =>
      name (value "lat_dimension_name") :: name (value "lon_dimension_name")
        :: (points (value "points") ++ [number (value "tolerance")])
  | .point3d =>
      name (value "time_dimension_name") :: name (value "lat_dimension_name")
        :: name (value "lon_dimension_name")
        :: (numbers (value "steps")
          ++ (points (value "points") ++ [number (value "tolerance")]))

/-- What breaks the reading off without a word about the configuration: an integer that is too
large for a double, and in the place of a pair an object of two members, or a value that is too deep
for a complaint about it.
-/
def IsFatal (levels : Nat) : Demand → Prop
  | number (.int n) => Decimal.ofInt? n = none
  | pair (.obj [_, _]) => True
  | pair (.arr [_, _]) => False
  | pair value => value.IsTooDeep levels
  | _ => False

end Demand

/-- A computation makes sure that demands are met one after the other, and settles then. -/
def Honours {α : Type} (levels : Nat) (kind : Kind) (demands : List Demand)
    (outcome : Except Failure α) : Prop :=
  match demands.mapM (Demand.check levels kind) with
  | .ok _ => Settles outcome
  | .error failure => outcome = .error failure

variable {levels : Nat} {kind : Kind} {α β : Type}

theorem Honours.nil {outcome : Except Failure α} (settles : Settles outcome)
    : Honours levels kind [] outcome :=
  settles

theorem Honours.bind {demands others : List Demand} {first : Except Failure α}
    {next : α → Except Failure β} (h : Abreast first (demands.mapM (Demand.check levels kind)))
    (hnext : ∀ answer, Honours levels kind others (next answer))
    : Honours levels kind (demands ++ others) (first >>= next) := by
  rw [Honours, List.mapM_append]
  generalize demands.mapM (Demand.check levels kind) = checked at h
  cases h with
  | error failure => rfl
  | @ok answer met _ =>
      have later := hnext answer
      rw [Honours] at later
      cases rest : others.mapM (Demand.check levels kind) with
      | error failure => simpa [rest] using later
      | ok others => simpa [rest, Pure.pure, Except.pure] using later

theorem abreast_check {first : Except Failure α} {demand : Demand}
    (same : demand.check levels kind = (do let _ ← first))
    : Abreast first ([demand].mapM (Demand.check levels kind)) := by
  rw [List.mapM_cons, List.mapM_nil, same]
  cases first with
  | ok answer => exact .ok trivial
  | error failure => exact .error failure

theorem abreast_append {demands others : List Demand} {first : Except Failure α}
    {next : α → Except Failure β} (h : Abreast first (demands.mapM (Demand.check levels kind)))
    (hnext
      : ∀ answer,
          first = .ok answer → Abreast (next answer) (others.mapM (Demand.check levels kind)))
    : Abreast (first >>= next) ((demands ++ others).mapM (Demand.check levels kind)) := by
  rw [List.mapM_append]
  generalize demands.mapM (Demand.check levels kind) = checked at h
  cases h with
  | error failure => exact .error failure
  | ok _ => exact (hnext _ rfl).pure_right _

/-- Entries that are read one after the other make their demands in that order, by list
induction.
-/
theorem abreast_mapM {step : α → Except Failure β} {demandsOf : α → List Demand}
    (h : ∀ entry, Abreast (step entry) ((demandsOf entry).mapM (Demand.check levels kind)))
    (entries : List α)
    : Abreast (entries.mapM step)
        ((entries.flatMap demandsOf).mapM (Demand.check levels kind)) := by
  induction entries with
  | nil => exact .ok trivial
  | cons entry rest ih =>
      rw [List.mapM_cons, List.flatMap_cons]
      exact abreast_append (h entry) fun answer _ => ih.pure_left _

theorem entriesOf_of_items {value : Json} {entries : List Json} (h : value.items = .ok entries)
    : entriesOf value = entries := by
  rw [entriesOf, h]

theorem abreast_dimension (value : Json)
    : Abreast (readDimension kind value) ([.name value].mapM (Demand.check levels kind)) :=
  abreast_check rfl

theorem abreast_number (value : Json)
    : Abreast value.toFloat ([.number value].mapM (Demand.check levels kind)) :=
  abreast_check rfl

theorem abreast_listing {step : Json → Except Failure β} {demandsOf : Json → List Demand}
    (h : ∀ entry, Abreast (step entry) ((demandsOf entry).mapM (Demand.check levels kind)))
    (listed : Json)
    : Abreast (listed.items >>= fun entries => entries.mapM step)
        (([Demand.listing listed] ++ (entriesOf listed).flatMap demandsOf).mapM
          (Demand.check levels kind)) := by
  refine abreast_append (abreast_check rfl) fun entries found => ?_
  rw [entriesOf_of_items found]
  exact abreast_mapM h entries

theorem abreast_numbers (listed : Json)
    : Abreast (readNumbers listed) ((Demand.numbers listed).mapM (Demand.check levels kind)) := by
  rw [Demand.numbers, ← List.singleton_append, List.map_eq_flatMap]
  exact abreast_listing abreast_number listed

/-- Two entries are read as numbers once they pass for a pair. -/
theorem abreast_pair {a b : Json} {paired : Except Failure Unit} (fine : paired = .ok ())
    : Abreast (do pure (← a.toFloat, ← b.toFloat) : Except Failure (Float × Float))
        (do
          let first ← paired
          let others ← ([Demand.number a] ++ [Demand.number b]).mapM (Demand.check levels kind)
          pure (first :: others)) := by
  rw [fine, ok_bind]
  refine Abreast.pure_right ?_ _
  exact abreast_append (abreast_number a) fun _ _ => (abreast_number b).pure_left _

/-- What is no pair is shown, and neither of the two goes on. -/
theorem abreast_pointSize (levels : Nat) (value : Json) {next : Unit → Except Failure (List Unit)}
    : Abreast
        (do senseless kind (.pointSize (← value.shown levels)) : Except Failure (Float × Float))
        ((do senseless kind (.pointSize (← value.shown levels)) : Except Failure Unit)
          >>= next) := by
  cases value.shown levels <;> exact .error _

/-- The numbers of a point are read once it is known that there are two, by kind of value and
number of entries. A text is read as the list of its characters.
-/
theorem abreast_point (value : Json)
    : Abreast (readPoint levels kind value)
        ((Demand.point value).mapM (Demand.check levels kind)) := by
  rw [Demand.point, List.mapM_cons]
  cases value with
  | null | bool | int | float => exact .error _
  | str text =>
      simp only [Demand.check, readPoint, entriesOf, Json.items]
      generalize text.toList.map _ = entries
      rcases entries with _ | ⟨a, _ | ⟨b, _ | ⟨c, rest⟩⟩⟩
      · exact abreast_pointSize levels (.str text)
      · exact abreast_pointSize levels (.str text)
      · exact abreast_pair rfl
      · exact abreast_pointSize levels (.str text)
  | arr entries =>
      rcases entries with _ | ⟨a, _ | ⟨b, _ | ⟨c, rest⟩⟩⟩
      · exact abreast_pointSize levels (.arr _)
      · exact abreast_pointSize levels (.arr _)
      · exact abreast_pair rfl
      · exact abreast_pointSize levels (.arr _)
  | obj members =>
      rcases members with _ | ⟨a, _ | ⟨b, _ | ⟨c, rest⟩⟩⟩
      · exact abreast_pointSize levels (.obj _)
      · exact abreast_pointSize levels (.obj _)
      · exact .error _
      · exact abreast_pointSize levels (.obj _)

theorem abreast_points (listed : Json)
    : Abreast (readPoints levels kind listed)
        ((Demand.points listed).mapM (Demand.check levels kind)) :=
  abreast_listing abreast_point listed

/-- The values are read in the order of the demands, and the checks of the filter come last. -/
theorem honours_ofNamedParameters (levels : Nat) (kind : Kind) (parameters : List (String × Json))
    : Honours levels kind (Demand.ofKind kind parameters)
        (ofNamedParameters levels kind parameters) := by
  cases kind with
  | range =>
      refine Honours.bind (abreast_dimension _) fun dimension => ?_
      refine Honours.bind (abreast_number _) fun low => ?_
      refine Honours.bind (abreast_number _) fun high => ?_
      exact .nil (settles_check _ _)
  | list =>
      refine Honours.bind (abreast_dimension _) fun dimension => ?_
      refine Honours.bind (abreast_numbers _) fun values => ?_
      refine Honours.bind (abreast_number _) fun tolerance => ?_
      exact .nil (settles_check _ _)
  | point2d =>
      refine Honours.bind (abreast_dimension _) fun first => ?_
      refine Honours.bind (abreast_dimension _) fun second => ?_
      refine Honours.bind (abreast_points _) fun points => ?_
      refine Honours.bind (abreast_number _) fun tolerance => ?_
      exact .nil (settles_check _ _)
  | point3d =>
      refine Honours.bind (abreast_dimension _) fun time => ?_
      refine Honours.bind (abreast_dimension _) fun first => ?_
      refine Honours.bind (abreast_dimension _) fun second => ?_
      refine Honours.bind (abreast_numbers _) fun steps => ?_
      refine Honours.bind (abreast_points _) fun points => ?_
      refine Honours.bind (abreast_number _) fun tolerance => ?_
      exact .nil (settles_check _ _)

theorem Honours.eq_fault_iff {demands : List Demand} {outcome : Except Failure α}
    (h : Honours levels kind demands outcome) {cause : Fault}
    : outcome = .error (.fault cause)
      ↔ demands.mapM (Demand.check levels kind) = .error (.fault cause) := by
  rw [Honours] at h
  cases met : demands.mapM (Demand.check levels kind) with
  | ok answers =>
      rw [met] at h
      refine iff_of_false (fun failed => ?_) nofun
      obtain ⟨item, issue, other⟩ := h.of_error failed
      cases other
  | error failure =>
      rw [met] at h
      rw [h]
      simp

-----------------------------------------------------------------------------------------
-- Fatal demands
-----------------------------------------------------------------------------------------

/-- A fault that is not reported as what is wrong with the parameters. -/
def IsEscaping (failure : Failure) : Prop :=
  ∃ cause, failure = .fault cause ∧ cause ≠ .badType ∧ cause ≠ .badValue

@[simp] theorem isEscaping_fault_iff {cause : Fault}
    : IsEscaping (.fault cause) ↔ cause ≠ .badType ∧ cause ≠ .badValue := by
  simp [IsEscaping]

@[simp] theorem not_isEscaping_error (reason : Error) : ¬IsEscaping (.error reason) := by
  simp [IsEscaping]

/-- A complaint about the size of a point escapes just if the point is too deep to be shown. -/
theorem exists_escaping_pointSize_iff {value : Json}
    : (∃ failure,
        (do senseless kind (.pointSize (← value.shown levels)) : Except Failure Unit)
          = .error failure
        ∧ IsEscaping failure)
      ↔ value.IsTooDeep levels := by
  rw [← Json.shown_eq_nestedTooDeep_iff]
  have ends := Json.ends_shown levels value
  generalize value.shown levels = shown at ends ⊢
  cases ends with
  | ok => simp [senseless, misconfigured]
  | error known => rcases known with rfl | rfl <;> simp

theorem Demand.exists_escaping_iff {demand : Demand}
    : (∃ failure, demand.check levels kind = .error failure ∧ IsEscaping failure)
      ↔ demand.IsFatal levels := by
  cases demand with
  | name value =>
      cases value with
      | str text =>
          rw [check, readDimension]
          split <;> simp [senseless, misconfigured, IsFatal]
      | _ => simp [check, readDimension, senseless, misconfigured, IsFatal]
  | listing value =>
      cases value <;> simp [check, Json.items, raiseFault, IsFatal, Pure.pure, Except.pure]
  | pair value =>
      cases value with
      | null | bool | int | float =>
          refine iff_of_false ?_ (by rintro ⟨⟩)
          rintro ⟨failure, ended, escaping⟩
          cases ended
          exact (isEscaping_fault_iff.mp escaping).1 rfl
      | str text =>
          change _ ↔ (Json.str text).IsTooDeep levels
          rw [← exists_escaping_pointSize_iff]
          simp only [check, Json.items]
          generalize text.toList.map _ = entries
          rcases entries with _ | ⟨a, _ | ⟨b, _ | ⟨c, rest⟩⟩⟩
          · exact Iff.rfl
          · exact Iff.rfl
          · refine iff_of_false ?_ (mt exists_escaping_pointSize_iff.mp (by rintro ⟨⟩))
            rintro ⟨failure, ⟨⟩, -⟩
          · exact Iff.rfl
      | arr entries =>
          rcases entries with _ | ⟨a, _ | ⟨b, _ | ⟨c, rest⟩⟩⟩
          · exact exists_escaping_pointSize_iff
          · exact exists_escaping_pointSize_iff
          · exact iff_of_false (by rintro ⟨failure, ⟨⟩, -⟩) (by rintro ⟨⟩)
          · exact exists_escaping_pointSize_iff
      | obj members =>
          rcases members with _ | ⟨a, _ | ⟨b, _ | ⟨c, rest⟩⟩⟩
          · exact exists_escaping_pointSize_iff
          · exact exists_escaping_pointSize_iff
          · exact iff_of_true ⟨_, rfl, by simp⟩ trivial
          · exact exists_escaping_pointSize_iff
  | number value =>
      cases value with
      | null | arr | obj =>
          refine iff_of_false ?_ id
          rintro ⟨failure, ended, escaping⟩
          cases ended
          exact (isEscaping_fault_iff.mp escaping).1 rfl
      | bool | float =>
          refine iff_of_false ?_ id
          rintro ⟨failure, ended, -⟩
          cases ended
      | int n =>
          simp only [IsFatal, check, Json.toFloat_int]
          cases Decimal.ofInt? n <;> simp [raiseFault, Pure.pure, Except.pure]
      | str text =>
          simp only [IsFatal, check, Json.toFloat_str]
          cases Decimal.readFloat? text.toList <;> simp [raiseFault, Pure.pure, Except.pure]

end GridTable.Filter
